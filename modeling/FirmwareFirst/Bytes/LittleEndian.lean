import FirmwareFirst.Bytes

/-!
# Little-endian numbers

A number of fixed width is stored least significant byte first. `encode` and `decode` undo each
other on numbers that fit (`decode_encode`) and on every run of bytes (`encode_decode`).
-/

namespace FirmwareFirst.LittleEndian

/-- The `width` bytes of `n`, least significant first; higher bits are dropped. -/
def encode : Nat → Nat → Bytes
  | 0, _ => []
  | width + 1, n => UInt8.ofNat n :: encode width (n / 256)

/-- The number whose bytes are given, least significant first. -/
def decode : Bytes → Nat
  | [] => 0
  | b :: bs => b.toNat + 256 * decode bs

/-- How many numbers there are of `width` bytes. -/
def bound : Nat → Nat
  | 0 => 1
  | width + 1 => 256 * bound width

@[simp] theorem length_encode (width n : Nat) : (encode width n).length = width := by
  induction width generalizing n with
  | zero => rfl
  | succ width ih => simp [encode, ih]

theorem decode_encode (width n : Nat) : decode (encode width n) = n % bound width := by
  induction width generalizing n with
  | zero => simp [encode, decode, bound, Nat.mod_one]
  | succ width ih =>
    have h : (UInt8.ofNat n).toNat = n % 256 := by simp
    rw [encode, decode, ih, h, bound, Nat.mod_mul]

theorem decode_encode_of_lt {width n : Nat} (h : n < bound width) :
    decode (encode width n) = n := by
  rw [decode_encode, Nat.mod_eq_of_lt h]

theorem decode_lt (bs : Bytes) : decode bs < bound bs.length := by
  induction bs with
  | nil => simp [decode, bound]
  | cons b bs ih =>
    have hb := b.toNat_lt
    simp only [decode, List.length_cons, bound]
    omega

theorem encode_decode (bs : Bytes) : encode bs.length (decode bs) = bs := by
  induction bs with
  | nil => rfl
  | cons b bs ih =>
    have hb := b.toNat_lt
    have hd : (b.toNat + 256 * decode bs) / 256 = decode bs := by omega
    rw [List.length_cons, encode, decode, hd, ih]
    congr 1
    apply UInt8.toNat_inj.1
    simp

end FirmwareFirst.LittleEndian
