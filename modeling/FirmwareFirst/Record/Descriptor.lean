import FirmwareFirst.Wire.Layout

/-!
# Error source descriptors

The descriptor of a generic hardware error source, version 2, tells the operating system where the
status block of an error source is found, how it is notified of a new report, and through which
register it acknowledges one.
-/

namespace FirmwareFirst

/-- Where a register is and how it is accessed. -/
structure RegisterAddress where
  addressSpace : UInt8
  /-- Width in bits. -/
  bitWidth : UInt8
  bitOffset : UInt8
  accessSize : UInt8
  address : UInt64
deriving DecidableEq

namespace RegisterAddress

/-- The fields of a register address, in the order they are stored in. -/
def fields : Correspondence (UInt8 × UInt8 × UInt8 × UInt8 × UInt64) RegisterAddress where
  build := fun (a, b, c, d, e) => ⟨a, b, c, d, e⟩
  parts := fun ⟨a, b, c, d, e⟩ => (a, b, c, d, e)
  build_parts _ := rfl
  parts_build _ := rfl

open Layout in
/-- The layout of a register address. -/
def layout : Layout RegisterAddress :=
  (uint8.pair <| uint8.pair <| uint8.pair <| uint8.pair uint64).as fields

/-- The address space of memory. -/
def systemMemory : UInt8 := 0

/-- The access size of eight bytes. -/
def eightByteAccess : UInt8 := 4

/-- A 64-bit register in memory. -/
def inMemory (address : UInt64) : RegisterAddress where
  addressSpace := systemMemory
  bitWidth := 64
  bitOffset := 0
  accessSize := eightByteAccess
  address := address

end RegisterAddress

/-- How the operating system is notified of a report. -/
structure Notification where
  kind : UInt8
  /-- Length of this structure. -/
  length : UInt8
  /-- Which of the fields below the operating system may change. -/
  writeEnable : UInt16
  /-- Milliseconds between two polls. -/
  pollInterval : UInt32
  /-- The interrupt or the event. -/
  vector : UInt32
  pollingThreshold : UInt32
  pollingWindow : UInt32
  errorThreshold : UInt32
  errorWindow : UInt32
deriving DecidableEq

namespace Notification

/-- The fields of a notification, in the order they are stored in. -/
def fields : Correspondence (UInt8 × UInt8 × UInt16 × UInt32 × UInt32 × UInt32 × UInt32 × UInt32 ×
    UInt32) Notification where
  build := fun (a, b, c, d, e, f, g, h, i) => ⟨a, b, c, d, e, f, g, h, i⟩
  parts := fun ⟨a, b, c, d, e, f, g, h, i⟩ => (a, b, c, d, e, f, g, h, i)
  build_parts _ := rfl
  parts_build _ := rfl

open Layout in
/-- The layout of a notification. -/
def layout : Layout Notification :=
  (uint8.pair <| uint8.pair <| uint16.pair <| uint32.pair <| uint32.pair <| uint32.pair <|
    uint32.pair <| uint32.pair uint32).as fields

/-- The operating system polls. -/
def polledKind : UInt8 := 0

/-- The operating system is interrupted. -/
def interruptKind : UInt8 := 1

/-- The operating system is sent a software delegated exception. -/
def delegatedKind : UInt8 := 11

/-- Notification through the software delegated exception `event`. -/
def delegated (event : UInt32) : Notification where
  kind := delegatedKind
  length := UInt8.ofNat layout.size
  writeEnable := 0
  pollInterval := 0
  vector := event
  pollingThreshold := 0
  pollingWindow := 0
  errorThreshold := 0
  errorWindow := 0

end Notification

/-- The descriptor of an error source. -/
structure Descriptor where
  kind : UInt16
  sourceId : UInt16
  /-- The error source to use in place of this one. -/
  relatedSourceId : UInt16
  flags : UInt8
  enabled : UInt8
  recordsToPreallocate : UInt32
  sectionsPerRecord : UInt32
  /-- Length of the largest section. -/
  rawDataLength : UInt32
  /-- The register that holds the address of the status block. -/
  statusAddress : RegisterAddress
  notification : Notification
  statusBlockLength : UInt32
  /-- The register that holds the address of the acknowledgement. -/
  ackRegister : RegisterAddress
  ackPreserve : UInt64
  ackWrite : UInt64
deriving DecidableEq

namespace Descriptor

/-- The fields of a descriptor, in the order they are stored in. -/
def fields : Correspondence (UInt16 × UInt16 × UInt16 × UInt8 × UInt8 × UInt32 × UInt32 × UInt32 ×
    RegisterAddress × Notification × UInt32 × RegisterAddress × UInt64 × UInt64) Descriptor where
  build := fun (a, b, c, d, e, f, g, h, i, j, k, l, m, n) =>
    ⟨a, b, c, d, e, f, g, h, i, j, k, l, m, n⟩
  parts := fun ⟨a, b, c, d, e, f, g, h, i, j, k, l, m, n⟩ =>
    (a, b, c, d, e, f, g, h, i, j, k, l, m, n)
  build_parts _ := rfl
  parts_build _ := rfl

open Layout in
/-- The layout of a descriptor. -/
def layout : Layout Descriptor :=
  (uint16.pair <| uint16.pair <| uint16.pair <| uint8.pair <| uint8.pair <| uint32.pair <|
    uint32.pair <| uint32.pair <| RegisterAddress.layout.pair <| Notification.layout.pair <|
    uint32.pair <| RegisterAddress.layout.pair <| uint64.pair uint64).as fields

/-- The kind of a generic hardware error source, version 2. -/
def genericSourceKind : UInt16 := 10

/-- The related source of a source that has none. -/
def noRelatedSource : UInt16 := 0xffff

end Descriptor
end FirmwareFirst
