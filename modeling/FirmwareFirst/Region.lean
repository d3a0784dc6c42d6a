import FirmwareFirst.Message
import FirmwareFirst.Record.Report
import FirmwareFirst.Region.Zone

/-!
# Error status regions

A `Region` is the memory that an error source shares with the operating system. It starts out with
whatever the memory held; `prepare` clears it and points its registers at their data, once, and
`publish` puts a report into the status block of a prepared region. Memory is only ever changed by
`store`, which keeps its length.

Both work on pieces of the memory, one after another, and each piece must lie in the memory. A
piece that does not is where the call ends: it never returns, and what it has done so far stays.
That can be where the sum of the lengths of the zones is too large to be counted, so that memory is
taken which is too small for them (`Addressable`).
-/

namespace FirmwareFirst

/-- The memory shared with the operating system. -/
structure Region where
  /-- The address of the memory. -/
  base : UInt64
  memory : Bytes
  /-- The length of the largest section it is laid out for. -/
  maxSection : Nat
  /-- The registers have been pointed at their data. -/
  prepared : Bool
  /-- The memory is as large as is asked for. -/
  fits : requiredSize maxSection ≤ memory.length
deriving DecidableEq

namespace Region

/-! ## Making a region -/

/-- The region over `memory`, which lies at `base`. -/
def ofMemory (base : UInt64) (memory : Bytes) (maxSection : Nat) : Except Rejection Region :=
  if h : requiredSize maxSection ≤ memory.length then
    .ok ⟨base, memory, maxSection, false, h⟩
  else .error ⟨.regionTooSmall, [.memoryTooShort memory.length maxSection]⟩

/-- The `size` bytes that `physical` memory holds from address `base` on. -/
def contents (physical : UInt64 → UInt8) (base : UInt64) (size : Nat) : Bytes :=
  (List.range size).map fun i => physical (base + UInt64.ofNat i)

@[simp] theorem length_contents (physical : UInt64 → UInt8) (base : UInt64) (size : Nat) :
    (contents physical base size).length = size := by
  simp [contents]

/-- The region over `size` bytes of `physical` memory that are reserved for it at `base`. -/
def ofReserved (physical : UInt64 → UInt8) (base : UInt64) (size maxSection : Nat) :
    Except Rejection Region :=
  if base = 0 then .error ⟨.invalidParameter, []⟩
  else if h : requiredSize maxSection ≤ size then
    .ok ⟨base, contents physical base size, maxSection, false, by simpa using h⟩
  else .error ⟨.regionTooSmall, [.reservedMemoryTooShort base size]⟩

/-! ## Reading a region -/

/-- The size of the memory. -/
def size (r : Region) : Nat := r.memory.length

/-- The length of the status block. -/
def blockLength (r : Region) : Nat := statusBlockLength r.maxSection

/-- The address of a zone. -/
def address (r : Region) (z : Zone) : UInt64 :=
  r.base + UInt64.ofNat (z.offset r.maxSection)

/-- The bytes of a zone. -/
def read (r : Region) (z : Zone) : Bytes :=
  r.memory.window (z.offset r.maxSection) (z.length r.maxSection)

/-- The number a zone holds. -/
def number (r : Region) (z : Zone) : UInt64 :=
  Layout.uint64.decode (r.read z)

/-! ## Changing a region -/

/-- The region with `data` stored from `start` on. -/
def store (r : Region) (start : Nat) (data : Bytes) : Region :=
  { r with memory := r.memory.overwrite start data, fits := by simpa using r.fits }

/-- The region with its memory cleared. -/
def clear (r : Region) : Region :=
  { r with memory := r.memory.cleared, fits := by simpa using r.fits }

/-- A piece of memory, from its first byte to the one behind its last, and what it is filled
with. -/
structure Piece where
  first : Nat
  behind : Nat
  data : Bytes

/-- The piece lies in memory of `size` bytes and is filled completely. -/
structure Piece.Within (p : Piece) (size : Nat) : Prop where
  ordered : p.first ≤ p.behind
  within : p.behind ≤ size
  filled : p.data.length = p.behind - p.first

instance (p : Piece) (size : Nat) : Decidable (p.Within size) :=
  decidable_of_iff
    (p.first ≤ p.behind ∧ p.behind ≤ size ∧ p.data.length = p.behind - p.first)
    ⟨fun ⟨ho, hw, hf⟩ => ⟨ho, hw, hf⟩, fun ⟨ho, hw, hf⟩ => ⟨ho, hw, hf⟩⟩

/-- The region with some pieces of it filled, one after another, up to the first one that does not
lie in the memory, and whether all of them do. -/
def fillAll (r : Region) : List Piece → Region × Bool
  | [] => (r, true)
  | p :: rest => if p.Within r.size then (r.store p.first p.data).fillAll rest else (r, false)

/-- The register of a zone filled with the address of another. -/
def pointer (r : Region) (register data : Zone) : Piece where
  first := register.offset r.maxSection
  behind := register.offset r.maxSection + Layout.uint64.size
  data := Layout.uint64.encode (r.address data)

/-- The region ready for reports, and what is logged of it, unless the call never returns; a region
that is ready stays as it is. -/
def prepare (r : Region) : Region × Option (List Message) :=
  if r.prepared then (r, some [])
  else
    match r.clear.fillAll [r.pointer .statusRegister .statusData, r.pointer .ackRegister .ackData]
    with
    | (r, true) => ({ r with prepared := true }, some [.regionPrepared r.base r.blockLength])
    | (r, false) => (r, none)

/-- The header of the status block for a report. -/
def headerOf (report : Report Bytes) : StatusHeader :=
  .ofSingleEntry report.summary.blockStatus
    (UInt32.ofNat (DataEntry.layout.size + report.content.length)) report.summary.severity

/-- The data entry for a report. -/
def entryOf (sectionType : Guid) (report : Report Bytes) : DataEntry :=
  .ofSection sectionType report.summary.severity report.summary.flags
    (UInt32.ofNat report.content.length)

/-- The pieces that a report is written in. -/
def pieces (sectionType : Guid) (report : Report Bytes) : List Piece :=
  [⟨16, entryOffset, StatusHeader.layout.encode (headerOf report)⟩,
    ⟨entryOffset, sectionOffset, DataEntry.layout.encode (entryOf sectionType report)⟩,
    ⟨sectionOffset, sectionOffset + report.content.length, report.content⟩]

/-- The region with a report in its status block, or why it is refused, unless the call never
returns. -/
def write (r : Region) (sectionType : Guid) (report : Report Bytes) :
    Option (Except CallError Region) :=
  if !r.prepared then some (.error .notReady)
  else if r.maxSection < report.content.length then some (.error .sectionTooLarge)
  else
    match r.fillAll (pieces sectionType report) with
    | (r, true) => some (.ok r)
    | (_, false) => none

/-- What is logged of a report that was written. -/
def writtenMessage (r : Region) (report : Report Bytes) : Message :=
  .reportWritten report.summary.severity report.content.length (r.address .statusData)

/-- The region after an attempt to write a report, and, unless the call never returns, what is
logged of it and whether it worked. -/
def publish (r : Region) (sectionType : Guid) (report : Report Bytes) :
    Region × Option (List Message × Except CallError Unit) :=
  match r.write sectionType report with
  | some (.ok written) => (written, some ([written.writtenMessage report], .ok ()))
  | some (.error e) => (r, some ([], .error e))
  | none => ((r.fillAll (pieces sectionType report)).1, none)

end Region
end FirmwareFirst
