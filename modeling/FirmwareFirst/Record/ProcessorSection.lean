import FirmwareFirst.Wire.Guid

/-!
# Processor error sections

A processor error section is a `ProcessorHeader`, then the `ProcessorError`s it counts, then the
`RegisterContext`s it counts. `ProcessorSection` is the shape this library writes: one error and
three contexts.
-/

namespace FirmwareFirst

/-- The type of a processor error section. -/
def processorSectionType : Guid :=
  Guid.ofGroups 0xe19e3d16 0xbc11 0x11e4 #v[0x9c, 0xaa, 0xc2, 0x05, 0x1d, 0x5d, 0x46, 0xb0]

/-- The header of a processor error section. -/
structure ProcessorHeader where
  /-- Which of the fields below are valid. -/
  validFields : UInt32
  /-- How many errors follow. -/
  errorCount : UInt16
  /-- How many register contexts follow the errors. -/
  contextCount : UInt16
  /-- Length of the whole section. -/
  sectionLength : UInt32
  affinityLevel : UInt8
  reserved : Vector UInt8 3
  /-- The affinity register of the processor. -/
  mpidr : UInt64
  /-- The identification register of the processor. -/
  midr : UInt64
  /-- Bit 0 says that the processor is running. -/
  runningState : UInt32
  /-- The power state of a processor that is not running. -/
  powerState : UInt32
deriving DecidableEq

namespace ProcessorHeader

/-- The fields of a section header, in the order they are stored in. -/
def fields : Correspondence (UInt32 × UInt16 × UInt16 × UInt32 × UInt8 × Vector UInt8 3 × UInt64 ×
    UInt64 × UInt32 × UInt32) ProcessorHeader where
  build := fun (a, b, c, d, e, f, g, h, i, j) => ⟨a, b, c, d, e, f, g, h, i, j⟩
  parts := fun ⟨a, b, c, d, e, f, g, h, i, j⟩ => (a, b, c, d, e, f, g, h, i, j)
  build_parts _ := rfl
  parts_build _ := rfl

open Layout in
/-- The layout of a section header. -/
def layout : Layout ProcessorHeader :=
  (uint32.pair <| uint16.pair <| uint16.pair <| uint32.pair <| uint8.pair <| (bytes 3).pair <|
    uint64.pair <| uint64.pair <| uint32.pair uint32).as fields

/-- The affinity register is valid. -/
def mpidrValid : UInt32 := 0x1

/-- The affinity level is valid. -/
def affinityLevelValid : UInt32 := 0x2

/-- The running state is valid. -/
def runningStateValid : UInt32 := 0x4

/-- Vendor data follows the contexts. -/
def vendorDataValid : UInt32 := 0x8

end ProcessorHeader

/-- One error of a processor. -/
structure ProcessorError where
  version : UInt8
  /-- Length of this structure. -/
  length : UInt8
  /-- Which of the fields below are valid. -/
  validFields : UInt16
  /-- The number of the failing structure's kind. -/
  errorType : UInt8
  /-- How many errors there were, zero when that is not known. -/
  errorCount : UInt16
  flags : UInt8
  /-- What is known of the fault, packed into bits. -/
  fault : UInt64
  virtualAddress : UInt64
  physicalAddress : UInt64
deriving DecidableEq

namespace ProcessorError

/-- The fields of a processor error, in the order they are stored in. -/
def fields : Correspondence (UInt8 × UInt8 × UInt16 × UInt8 × UInt16 × UInt8 × UInt64 × UInt64 ×
    UInt64) ProcessorError where
  build := fun (a, b, c, d, e, f, g, h, i) => ⟨a, b, c, d, e, f, g, h, i⟩
  parts := fun ⟨a, b, c, d, e, f, g, h, i⟩ => (a, b, c, d, e, f, g, h, i)
  build_parts _ := rfl
  parts_build _ := rfl

open Layout in
/-- The layout of a processor error. -/
def layout : Layout ProcessorError :=
  (uint8.pair <| uint8.pair <| uint16.pair <| uint8.pair <| uint16.pair <| uint8.pair <|
    uint64.pair <| uint64.pair uint64).as fields

/-- The version that errors are written with. -/
def currentVersion : UInt8 := 0

/-- The error count is valid. -/
def errorCountValid : UInt16 := 0x01

/-- The flags are valid. -/
def flagsValid : UInt16 := 0x02

/-- The fault bits are valid. -/
def faultValid : UInt16 := 0x04

/-- The virtual address is valid. -/
def virtualAddressValid : UInt16 := 0x08

/-- The physical address is valid. -/
def physicalAddressValid : UInt16 := 0x10

/-- This is the first error captured. -/
def firstErrorFlag : UInt8 := 0x01

/-- This is the last error captured. -/
def lastErrorFlag : UInt8 := 0x02

/-- The error has been passed on. -/
def propagatedFlag : UInt8 := 0x04

/-- Errors were lost because the hardware record overflowed. -/
def overflowFlag : UInt8 := 0x08

end ProcessorError

/-- Registers of the general purpose context: X0 to X30 and SP. -/
def generalRegisterCount : Nat := 32

/-- Registers of the EL1 context. -/
def el1RegisterCount : Nat := 17

/-- Registers of the EL2 context. -/
def el2RegisterCount : Nat := 15

/-- Registers of the EL3 context. -/
def el3RegisterCount : Nat := 10

/-- The identification register's place in the EL1 context. -/
def el1MidrIndex : Nat := 5

/-- The affinity register's place in the EL1 context. -/
def el1MpidrIndex : Nat := 6

/-- The registers a context structure has room for: those of the largest context. -/
def contextCapacity : Nat := generalRegisterCount

/-- Which registers a context holds. -/
inductive ContextKind
  | general32
  | el1Of32
  | el2Of32
  | secureOf32
  | general64
  | el1Of64
  | el2Of64
  | el3Of64
  | miscellaneous
deriving DecidableEq

/-- The number of a context kind on the wire. -/
def ContextKind.code : ContextKind → UInt16
  | general32 => 0
  | el1Of32 => 1
  | el2Of32 => 2
  | secureOf32 => 3
  | general64 => 4
  | el1Of64 => 5
  | el2Of64 => 6
  | el3Of64 => 7
  | miscellaneous => 8

/-- The first `n` of some registers, with zeros for those that are missing. -/
def fitRegisters (n : Nat) (registers : List UInt64) : Vector UInt64 n :=
  Vector.ofFn fun i => registers.getD i 0

/-- Registers of a processor, as they were when the error was captured. -/
structure RegisterContext where
  version : UInt16
  /-- The number of the context's kind. -/
  kind : UInt16
  /-- Length of the registers in bytes. -/
  registersLength : UInt32
  registers : Vector UInt64 contextCapacity
deriving DecidableEq

namespace RegisterContext

/-- The fields of a register context, in the order they are stored in. -/
def fields : Correspondence (UInt16 × UInt16 × UInt32 × Vector UInt64 contextCapacity)
    RegisterContext where
  build := fun (a, b, c, d) => ⟨a, b, c, d⟩
  parts := fun ⟨a, b, c, d⟩ => (a, b, c, d)
  build_parts _ := rfl
  parts_build _ := rfl

open Layout in
/-- The layout of a register context. -/
def layout : Layout RegisterContext :=
  (uint16.pair <| uint16.pair <| uint32.pair <| uint64.array contextCapacity).as fields

/-- Length of the registers of a context, used or not. -/
def registersSize : Nat := contextCapacity * Layout.uint64.size

/-- The context holding as many of `registers` as it has room for. -/
def ofRegisters (kind : ContextKind) (registers : List UInt64) : RegisterContext where
  version := 0
  kind := kind.code
  registersLength := UInt32.ofNat registersSize
  registers := fitRegisters contextCapacity registers

/-- The context that holds nothing. -/
def zero : RegisterContext where
  version := 0
  kind := 0
  registersLength := 0
  registers := Vector.replicate contextCapacity 0

/-- The registers as stored, which is all of the structure behind its first eight bytes. -/
def registerBytes (c : RegisterContext) : Bytes :=
  (layout.encode c).drop 8

end RegisterContext

/-- How many contexts a written section has room for. -/
def sectionContextCount : Nat := 3

/-- A processor error section with one error and three contexts. -/
structure ProcessorSection where
  header : ProcessorHeader
  error : ProcessorError
  contexts : Vector RegisterContext sectionContextCount
deriving DecidableEq

/-- The fields of a processor error section, in the order they are stored in. -/
def ProcessorSection.fields : Correspondence (ProcessorHeader × ProcessorError ×
    Vector RegisterContext sectionContextCount) ProcessorSection where
  build := fun (a, b, c) => ⟨a, b, c⟩
  parts := fun ⟨a, b, c⟩ => (a, b, c)
  build_parts _ := rfl
  parts_build _ := rfl

/-- The layout of a processor error section. -/
def ProcessorSection.layout : Layout ProcessorSection :=
  (ProcessorHeader.layout.pair <| ProcessorError.layout.pair <|
    RegisterContext.layout.array sectionContextCount).as ProcessorSection.fields

end FirmwareFirst
