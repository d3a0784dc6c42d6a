import FirmwareFirst.Record.StatusBlock

/-!
# Zones of a region

The region that an error source shares with the operating system is cut into four zones, one right
behind the other. The two registers hold the addresses of the two zones behind them.

| zone             | starts at                | holds                                    |
|------------------|--------------------------|------------------------------------------|
| `ackRegister`    | 0                        | the address of `ackData`                 |
| `statusRegister` | 8                        | the address of `statusData`              |
| `statusData`     | 16                       | the status block                         |
| `ackData`        | behind the status block  | the operating system's acknowledgement   |

Within the status block the header comes first, then the data entry, then the section.

Lengths are counted in words of 64 bits, and sums of them are made without asking whether they have
more. For sections of absurd lengths the zones are therefore not where the table says: the zone
behind the status block may lie inside of it. `Addressable` says for which sections that cannot be.
-/

namespace FirmwareFirst

/-- What a word of 64 bits keeps of a length. -/
def wrapped (length : Nat) : Nat := length % 0x10000000000000000

/-- All lengths of a region for sections of `maxSection` bytes can be counted. -/
def Addressable (maxSection : Nat) : Prop := 116 + maxSection < 0x10000000000000000

instance (maxSection : Nat) : Decidable (Addressable maxSection) :=
  inferInstanceAs (Decidable (_ < _))

/-- Length of a status block whose section has at most `maxSection` bytes. -/
def statusBlockLength (maxSection : Nat) : Nat :=
  wrapped (StatusHeader.layout.size + DataEntry.layout.size + maxSection)

/-- A zone of a region. -/
inductive Zone
  | ackRegister
  | statusRegister
  | statusData
  | ackData
deriving DecidableEq

namespace Zone

/-- Length of a zone in a region laid out for sections of `maxSection` bytes. -/
def length (maxSection : Nat) : Zone → Nat
  | ackRegister => Layout.uint64.size
  | statusRegister => Layout.uint64.size
  | statusData => statusBlockLength maxSection
  | ackData => Layout.uint64.size

/-- Where a zone starts. -/
def offset (maxSection : Nat) : Zone → Nat
  | ackRegister => 0
  | statusRegister => 8
  | statusData => 16
  | ackData => wrapped (16 + statusBlockLength maxSection)

end Zone

/-- Where the data entry starts. -/
def entryOffset : Nat := 16 + StatusHeader.layout.size

/-- Where the section starts. -/
def sectionOffset : Nat := entryOffset + DataEntry.layout.size

/-- The memory that a region for sections of `maxSection` bytes takes. -/
def requiredSize (maxSection : Nat) : Nat :=
  wrapped (16 + statusBlockLength maxSection + Layout.uint64.size)

theorem statusHeader_size : StatusHeader.layout.size = 20 := rfl

theorem dataEntry_size : DataEntry.layout.size = 72 := rfl

theorem statusBlockLength_eq (maxSection : Nat) :
    statusBlockLength maxSection = wrapped (92 + maxSection) :=
  rfl

theorem entryOffset_eq : entryOffset = 36 := rfl

theorem sectionOffset_eq : sectionOffset = 108 := rfl

theorem Zone.offset_ackData (maxSection : Nat) :
    ackData.offset maxSection = wrapped (108 + maxSection) := by
  simp only [offset, statusBlockLength_eq, wrapped]
  omega

theorem requiredSize_eq (maxSection : Nat) :
    requiredSize maxSection = wrapped (116 + maxSection) := by
  simp only [requiredSize, statusBlockLength_eq, wrapped, show Layout.uint64.size = 8 from rfl]
  omega

theorem Zone.length_eq (maxSection : Nat) (z : Zone) :
    z.length maxSection = if z = .statusData then wrapped (92 + maxSection) else 8 := by
  cases z <;> rfl

namespace Addressable

variable {maxSection : Nat}

theorem wrapped_eq (h : Addressable maxSection) {n : Nat} (hn : n ≤ 116) :
    wrapped (n + maxSection) = n + maxSection := by
  unfold Addressable at h
  exact Nat.mod_eq_of_lt (by omega)

theorem statusBlockLength_eq (h : Addressable maxSection) :
    statusBlockLength maxSection = 92 + maxSection :=
  h.wrapped_eq (by decide)

theorem offset_ackData (h : Addressable maxSection) :
    Zone.ackData.offset maxSection = 108 + maxSection := by
  rw [Zone.offset_ackData, h.wrapped_eq (by decide)]

theorem requiredSize_eq (h : Addressable maxSection) :
    requiredSize maxSection = 116 + maxSection := by
  rw [FirmwareFirst.requiredSize_eq, h.wrapped_eq (by decide)]

theorem length_eq (h : Addressable maxSection) (z : Zone) :
    z.length maxSection = if z = .statusData then 92 + maxSection else 8 := by
  rw [Zone.length_eq, h.wrapped_eq (by decide)]

/-- Every zone lies within the memory that the region takes. -/
theorem offset_add_length_le (h : Addressable maxSection) (z : Zone) :
    z.offset maxSection + z.length maxSection ≤ requiredSize maxSection := by
  rw [h.requiredSize_eq, h.length_eq]
  cases z with
  | statusData =>
    rw [if_pos rfl, Zone.offset]
    omega
  | ackData =>
    rw [if_neg (by decide), h.offset_ackData]
    omega
  | _ =>
    rw [if_neg (by decide), Zone.offset]
    omega

end Addressable
end FirmwareFirst
