/-!
# Processor faults

What is known of a fault in a cache or a translation buffer, and its packing into the 64 fault bits
of a processor error. Both kinds share one arrangement of bits:

| bits    | meaning                              |
|---------|--------------------------------------|
| 0..4    | the five fields below are valid      |
| 16..17  | transaction                          |
| 18..21  | operation                            |
| 22..24  | level                                |
| 25      | the processor context may be corrupt |
| 26      | the error was corrected              |
-/

namespace FirmwareFirst

/-- The kind of structure that failed. -/
inductive FaultKind
  | cache
  | translationBuffer
  | bus
  | microArchitecture
deriving DecidableEq

/-- The number of a fault kind on the wire. -/
def FaultKind.code : FaultKind → UInt8
  | cache => 0
  | translationBuffer => 1
  | bus => 2
  | microArchitecture => 3

/-- What the processor was doing when the fault arose. -/
inductive Transaction
  | instruction
  | dataAccess
  | generic
deriving DecidableEq

/-- The number of a transaction on the wire. -/
def Transaction.code : Transaction → UInt64
  | instruction => 0
  | dataAccess => 1
  | generic => 2

/-- The operation number of a fault of which no operation is known. -/
def genericOperation : UInt8 := 0

/-- What is known of a fault. -/
structure FaultDetail where
  transaction : Transaction
  /-- The number of the failing operation, of which four bits count. -/
  operation : UInt8
  /-- The level of the failing structure, of which three bits count. -/
  level : UInt8
  contextCorrupt : Bool
  corrected : Bool
deriving DecidableEq

/-- The fault bits: all five fields are marked valid. -/
def FaultDetail.bits (d : FaultDetail) : UInt64 :=
  let valid : UInt64 := 0x1f
  let corrupt : UInt64 := if d.contextCorrupt then 0x2000000 else 0
  let corrected : UInt64 := if d.corrected then 0x4000000 else 0
  valid ||| ((d.transaction.code &&& 0x3) <<< 16) ||| ((d.operation.toUInt64 &&& 0xf) <<< 18) |||
    ((d.level.toUInt64 &&& 0x7) <<< 22) ||| corrupt ||| corrected

/-- A fault in a cache or in a translation buffer. -/
inductive Fault
  | cache (detail : FaultDetail)
  | translationBuffer (detail : FaultDetail)
deriving DecidableEq

namespace Fault

/-- The kind of the structure that failed. -/
def kind : Fault → FaultKind
  | cache _ => .cache
  | translationBuffer _ => .translationBuffer

/-- The fault bits, which do not tell the kind. -/
def bits : Fault → UInt64
  | cache d => d.bits
  | translationBuffer d => d.bits

end Fault
end FirmwareFirst
