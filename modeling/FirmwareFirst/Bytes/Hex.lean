/-!
# Hexadecimal text

The spelling of numbers in log messages: `0x`, then lower-case digits without leading zeros.
-/

namespace FirmwareFirst

/-- The hexadecimal spelling of `n`, as in `0x1f`; zero is `0x0`. -/
def hex (n : Nat) : String :=
  "0x" ++ String.ofList (Nat.toDigits 16 n)

end FirmwareFirst
