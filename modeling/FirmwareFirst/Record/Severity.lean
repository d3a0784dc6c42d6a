/-!
# Error severity

The severity of an error, shared by the status block and its data entries, and its number on the
wire. Numbers above three stand for no severity.
-/

namespace FirmwareFirst

/-- How bad an error is. -/
inductive Severity
  /-- Uncorrected, but the operating system may be able to go on. -/
  | recoverable
  /-- Uncorrected, and nothing can be saved. -/
  | fatal
  /-- Corrected by hardware or firmware. -/
  | corrected
  /-- No severity applies. -/
  | none
deriving DecidableEq

namespace Severity

/-- The number of a severity on the wire. -/
def code : Severity → UInt32
  | recoverable => 0
  | fatal => 1
  | corrected => 2
  | none => 3

/-- The severity with number `n`. -/
def ofCode? (n : UInt32) : Option Severity :=
  if n = 0 then some recoverable
  else if n = 1 then some fatal
  else if n = 2 then some corrected
  else if n = 3 then some none
  else Option.none

/-- The name of a severity in log messages. -/
def name : Severity → String
  | recoverable => "Recoverable"
  | fatal => "Fatal"
  | corrected => "Corrected"
  | none => "None"

end Severity
end FirmwareFirst
