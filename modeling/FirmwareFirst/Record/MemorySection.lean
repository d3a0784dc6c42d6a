import FirmwareFirst.Wire.Guid

/-!
# Memory error sections

The section that describes an error in memory: where it is, as a physical address and as a place in
the memory hardware. Bits in `validFields` say which of the fields are given.
-/

namespace FirmwareFirst

/-- The type of a memory error section. -/
def memorySectionType : Guid :=
  Guid.ofGroups 0xa5bc1114 0x6f64 0x4ede #v[0xb8, 0x63, 0x3e, 0x83, 0xed, 0x7c, 0x83, 0xb1]

/-- A memory error section. -/
structure MemorySection where
  /-- Which of the fields below are valid. -/
  validFields : UInt64
  errorStatus : UInt64
  physicalAddress : UInt64
  /-- Which bits of the physical address count. -/
  physicalAddressMask : UInt64
  node : UInt16
  card : UInt16
  moduleRank : UInt16
  bank : UInt16
  device : UInt16
  row : UInt16
  column : UInt16
  bitPosition : UInt16
  requestorId : UInt64
  responderId : UInt64
  targetId : UInt64
  errorType : UInt8
  extended : UInt8
  rankNumber : UInt16
  cardHandle : UInt16
  moduleHandle : UInt16
deriving DecidableEq

namespace MemorySection

/-- The fields of a memory error section, in the order they are stored in. -/
def fields : Correspondence (UInt64 × UInt64 × UInt64 × UInt64 × UInt16 × UInt16 × UInt16 ×
    UInt16 × UInt16 × UInt16 × UInt16 × UInt16 × UInt64 × UInt64 × UInt64 × UInt8 × UInt8 × UInt16 ×
    UInt16 × UInt16) MemorySection where
  build := fun (a, b, c, d, e, f, g, h, i, j, k, l, m, n, o, p, q, r, s, t) =>
    ⟨a, b, c, d, e, f, g, h, i, j, k, l, m, n, o, p, q, r, s, t⟩
  parts := fun ⟨a, b, c, d, e, f, g, h, i, j, k, l, m, n, o, p, q, r, s, t⟩ =>
    (a, b, c, d, e, f, g, h, i, j, k, l, m, n, o, p, q, r, s, t)
  build_parts _ := rfl
  parts_build _ := rfl

open Layout in
/-- The layout of a memory error section. -/
def layout : Layout MemorySection :=
  (uint64.pair <| uint64.pair <| uint64.pair <| uint64.pair <| uint16.pair <| uint16.pair <|
    uint16.pair <| uint16.pair <| uint16.pair <| uint16.pair <| uint16.pair <| uint16.pair <|
    uint64.pair <| uint64.pair <| uint64.pair <| uint8.pair <| uint8.pair <| uint16.pair <|
    uint16.pair uint16).as fields

def errorStatusValid : UInt64 := 0x1

def physicalAddressValid : UInt64 := 0x2

def physicalAddressMaskValid : UInt64 := 0x4

def nodeValid : UInt64 := 0x8

def cardValid : UInt64 := 0x10

def moduleValid : UInt64 := 0x20

def bankValid : UInt64 := 0x40

def deviceValid : UInt64 := 0x80

def rowValid : UInt64 := 0x100

def columnValid : UInt64 := 0x200

def bitPositionValid : UInt64 := 0x400

def errorTypeValid : UInt64 := 0x4000

/-- The section in which only the physical address is known. -/
def ofAddress (address mask : UInt64) : MemorySection where
  validFields := physicalAddressValid ||| physicalAddressMaskValid
  errorStatus := 0
  physicalAddress := address
  physicalAddressMask := mask
  node := 0
  card := 0
  moduleRank := 0
  bank := 0
  device := 0
  row := 0
  column := 0
  bitPosition := 0
  requestorId := 0
  responderId := 0
  targetId := 0
  errorType := 0
  extended := 0
  rankNumber := 0
  cardHandle := 0
  moduleHandle := 0

end MemorySection
end FirmwareFirst
