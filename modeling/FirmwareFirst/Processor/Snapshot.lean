import FirmwareFirst.Record.ProcessorFault
import FirmwareFirst.Record.ProcessorSection

/-!
# Processor snapshots

A snapshot is the event of the processor error source: the registers of one hardware error record,
and the registers of the processor at the time of the error.
-/

namespace FirmwareFirst

/-- A processor error as it is handed to the error source. -/
structure ProcessorSnapshot where
  /-- The status register of the error record. -/
  status : UInt64
  /-- The first miscellaneous register of the error record. -/
  misc : UInt64
  /-- The physical address that failed. -/
  address : UInt64
  /-- Whether the processor was in its secure state. -/
  securityState : UInt64
  general : Vector UInt64 generalRegisterCount
  el1 : Vector UInt64 el1RegisterCount
  el2 : Vector UInt64 el2RegisterCount
  /-- The EL3 registers, which are never reported. -/
  el3 : Vector UInt64 el3RegisterCount
deriving DecidableEq

namespace ProcessorSnapshot

/-- The fields of a snapshot, in the order they are stored in. -/
def fields : Correspondence (UInt64 × UInt64 × UInt64 × UInt64 ×
    Vector UInt64 generalRegisterCount × Vector UInt64 el1RegisterCount ×
    Vector UInt64 el2RegisterCount × Vector UInt64 el3RegisterCount) ProcessorSnapshot where
  build := fun (a, b, c, d, e, f, g, h) => ⟨a, b, c, d, e, f, g, h⟩
  parts := fun ⟨a, b, c, d, e, f, g, h⟩ => (a, b, c, d, e, f, g, h)
  build_parts _ := rfl
  parts_build _ := rfl

open Layout in
/-- The layout of a snapshot. -/
def layout : Layout ProcessorSnapshot :=
  (uint64.pair <| uint64.pair <| uint64.pair <| uint64.pair <|
    (uint64.array generalRegisterCount).pair <| (uint64.array el1RegisterCount).pair <|
    (uint64.array el2RegisterCount).pair (uint64.array el3RegisterCount)).as fields

/-! ## The status register -/

/-- The error code. -/
def errorCodeMask : UInt64 := 0xff

/-- Error codes from here on are those of translation buffers, lower ones those of caches. -/
def translationBufferCode : UInt64 := 0x08

/-- The data is poisoned. -/
def poisonedBit : UInt64 := 0x400000

/-- The error was deferred. -/
def deferredBit : UInt64 := 0x800000

/-- Either of these bits says that the error was corrected. -/
def correctedMask : UInt64 := 0x3000000

/-- The miscellaneous registers are valid. -/
def miscValidBit : UInt64 := 0x4000000

/-- Errors were lost. -/
def overflowBit : UInt64 := 0x8000000

/-- The status register is valid. -/
def statusValidBit : UInt64 := 0x40000000

/-- The address register is valid. -/
def addressValidBit : UInt64 := 0x80000000

/-! ## The miscellaneous register -/

/-- The level of the failing structure. -/
def levelMask : UInt64 := 0xe

def levelShift : UInt64 := 1

/-- The number of corrected errors. -/
def countMask : UInt64 := 0xff00000000

def countShift : UInt64 := 32

/-! ## Security states -/

/-- The processor was in its secure state. -/
def secureState : UInt64 := 0

/-- The processor was in its non-secure state. -/
def nonSecureState : UInt64 := 1

/-! ## Reading a snapshot -/

/-- The error was corrected. -/
def isCorrected (s : ProcessorSnapshot) : Bool :=
  s.status &&& correctedMask != 0

/-- The error was deferred. -/
def isDeferred (s : ProcessorSnapshot) : Bool :=
  s.status &&& deferredBit != 0

/-- Errors were lost. -/
def isOverflowed (s : ProcessorSnapshot) : Bool :=
  s.status &&& overflowBit != 0

/-- The processor was in the non-secure state; every other state counts as secure. -/
def isNonSecure (s : ProcessorSnapshot) : Bool :=
  s.securityState == nonSecureState

/-- The level of the failing structure. -/
def level (s : ProcessorSnapshot) : UInt8 :=
  ((s.misc &&& levelMask) >>> levelShift).toUInt8

/-- The number of corrected errors. -/
def count (s : ProcessorSnapshot) : UInt16 :=
  ((s.misc &&& countMask) >>> countShift).toUInt16

/-- What the snapshot tells of the fault. -/
def fault (s : ProcessorSnapshot) : Fault :=
  let detail : FaultDetail :=
    { transaction := .generic
      operation := genericOperation
      level := s.level
      contextCorrupt := false
      corrected := s.isCorrected }
  if s.status &&& errorCodeMask < translationBufferCode then .cache detail
  else .translationBuffer detail

end ProcessorSnapshot
end FirmwareFirst
