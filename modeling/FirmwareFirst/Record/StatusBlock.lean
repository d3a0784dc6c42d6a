import FirmwareFirst.Record.BlockStatus
import FirmwareFirst.Record.Severity
import FirmwareFirst.Wire.Guid

/-!
# Status blocks

The status block is what an error source points the operating system at: a `StatusHeader`, one
`DataEntry`, and the section that the entry describes.
-/

namespace FirmwareFirst

/-- The header of a status block. -/
structure StatusHeader where
  /-- The bits of the block status. -/
  blockStatus : UInt32
  /-- Where raw data starts, from the start of the block. -/
  rawDataOffset : UInt32
  rawDataLength : UInt32
  /-- Length of the data entries and their sections. -/
  dataLength : UInt32
  /-- The number of the severity. -/
  severity : UInt32
deriving DecidableEq

/-- What a status block says about one section. -/
structure DataEntry where
  /-- The type of the section. -/
  sectionType : Guid
  /-- The number of the severity. -/
  severity : UInt32
  /-- Revision of this structure. -/
  revision : UInt16
  /-- Which of the identifier, the text and the time below are given. -/
  validationBits : UInt8
  flags : UInt8
  /-- Length of the section. -/
  dataLength : UInt32
  /-- Identifier of the replaceable unit. -/
  unitId : Vector UInt8 16
  /-- Name of the replaceable unit. -/
  unitText : Vector UInt8 20
  timestamp : UInt64
deriving DecidableEq

namespace DataEntry

/-- The fields of a data entry, in the order they are stored in. -/
def fields : Correspondence (Guid × UInt32 × UInt16 × UInt8 × UInt8 × UInt32 × Vector UInt8 16 ×
    Vector UInt8 20 × UInt64) DataEntry where
  build := fun (a, b, c, d, e, f, g, h, i) => ⟨a, b, c, d, e, f, g, h, i⟩
  parts := fun ⟨a, b, c, d, e, f, g, h, i⟩ => (a, b, c, d, e, f, g, h, i)
  build_parts _ := rfl
  parts_build _ := rfl

open Layout in
/-- The layout of a data entry. -/
def layout : Layout DataEntry :=
  (Guid.layout.pair <| uint32.pair <| uint16.pair <| uint8.pair <| uint8.pair <| uint32.pair <|
    (bytes 16).pair <| (bytes 20).pair uint64).as fields

/-- The revision that entries are written with. -/
def currentRevision : UInt16 := 0x300

/-- The section is the main one of its record. -/
def primaryFlag : UInt8 := 0x01

/-- The error may have spread beyond the processor or memory it arose in. -/
def containmentWarningFlag : UInt8 := 0x02

/-- The component was reset. -/
def resetFlag : UInt8 := 0x04

/-- The component has had more errors than its threshold allows. -/
def thresholdExceededFlag : UInt8 := 0x08

/-- The resource could not be reached. -/
def notAccessibleFlag : UInt8 := 0x10

/-- The error was deferred and nobody has met it yet. -/
def latentFlag : UInt8 := 0x20

/-- The error has been passed on. -/
def propagatedFlag : UInt8 := 0x40

/-- Errors were lost because the hardware record overflowed. -/
def overflowFlag : UInt8 := 0x80

/-- The entry for a section of `length` bytes, without unit or time. -/
def ofSection (sectionType : Guid) (severity : Severity) (flags : UInt8) (length : UInt32) :
    DataEntry where
  sectionType := sectionType
  severity := severity.code
  revision := currentRevision
  validationBits := 0
  flags := flags
  dataLength := length
  unitId := Vector.replicate 16 0
  unitText := Vector.replicate 20 0
  timestamp := 0

end DataEntry

namespace StatusHeader

/-- The fields of a status header, in the order they are stored in. -/
def fields : Correspondence (UInt32 × UInt32 × UInt32 × UInt32 × UInt32) StatusHeader where
  build := fun (a, b, c, d, e) => ⟨a, b, c, d, e⟩
  parts := fun ⟨a, b, c, d, e⟩ => (a, b, c, d, e)
  build_parts _ := rfl
  parts_build _ := rfl

open Layout in
/-- The layout of a status header. -/
def layout : Layout StatusHeader :=
  (uint32.pair <| uint32.pair <| uint32.pair <| uint32.pair uint32).as fields

/-- The header of a block with one data entry and no raw data, where the entry and its section take
`dataLength` bytes. -/
def ofSingleEntry (blockStatus : BlockStatus) (dataLength : UInt32) (severity : Severity) :
    StatusHeader where
  blockStatus := (blockStatus.withEntryCount 1).bits
  rawDataOffset := UInt32.ofNat (layout.size + DataEntry.layout.size)
  rawDataLength := 0
  dataLength := dataLength
  severity := severity.code

end StatusHeader
end FirmwareFirst
