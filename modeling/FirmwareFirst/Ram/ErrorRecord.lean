import FirmwareFirst.Wire.Layout

/-!
# RAM error records

The hardware keeps two banks of error record registers, one for secure and one for non-secure RAM.
Where the registers of a bank lie and which bits mean what is up to the platform and is described
by a `RamFormat`. The event of the RAM error source says which bank to read.
-/

namespace FirmwareFirst

/-- The event of the RAM error source. -/
structure RamEvent where
  nonSecure : UInt64
deriving DecidableEq

namespace RamEvent

/-- The fields of a RAM event, in the order they are stored in. -/
def fields : Correspondence UInt64 RamEvent where
  build a := ⟨a⟩
  parts e := e.nonSecure
  build_parts _ := rfl
  parts_build _ := rfl

open Layout in
/-- The layout of a RAM event. -/
def layout : Layout RamEvent :=
  uint64.as fields

/-- The value by which an event names the non-secure bank; every other value names the secure
one. -/
def nonSecureBank : UInt64 := 1

/-- The event names the non-secure bank. -/
def isNonSecure (e : RamEvent) : Bool :=
  e.nonSecure == nonSecureBank

end RamEvent

/-- How a bank of error record registers is laid out and read. -/
structure RamFormat where
  /-- Where the status register lies, from the start of the bank. -/
  statusOffset : UInt64
  codeOffset : UInt64
  addressOffset : UInt64
  /-- The bits of the status register for a corrected error. -/
  correctedBits : UInt32
  /-- The bits of the status register for an uncorrected error. -/
  uncorrectedBits : UInt32
  /-- The position of the multiplicity in the code register. -/
  multiplicityShift : UInt32
  multiplicityMask : UInt32
  /-- The multiplicity of several corrected errors. -/
  multipleCorrected : UInt32
  /-- The multiplicity of several uncorrected errors. -/
  multipleUncorrected : UInt32
deriving DecidableEq

/-- Where the two banks are and how they are laid out. -/
structure RamConfig where
  secureBase : UInt64
  nonSecureBase : UInt64
  format : RamFormat
deriving DecidableEq

/-- The start of the non-secure or of the secure bank. -/
def RamConfig.base (c : RamConfig) (nonSecure : Bool) : UInt64 :=
  if nonSecure then c.nonSecureBase else c.secureBase

/-- The values of the registers of a bank. -/
structure RamRecord where
  status : UInt32
  code : UInt32
  address : UInt32
deriving DecidableEq

end FirmwareFirst
