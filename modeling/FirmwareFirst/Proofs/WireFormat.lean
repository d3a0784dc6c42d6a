import FirmwareFirst.Processor.Snapshot
import FirmwareFirst.Ram.ErrorRecord
import FirmwareFirst.Record.Descriptor
import FirmwareFirst.Record.MemorySection
import FirmwareFirst.Record.StatusBlock
import FirmwareFirst.Wire.Placement

/-!
# The wire format

Twelve structures go over the wire. What a structure is stored as is said here by its `words`, the
numbers it is made of in the order of its fields, without a look at its layout; `packed` puts them
one right behind another, each least significant byte first. `wire_round_trips` says that the layout
of every structure stores its words, and that reading and writing at any placement of a buffer of
any length deals with these bytes and no others.
-/

namespace FirmwareFirst

/-! ## Words -/

/-- A number and how many bytes it is stored on. -/
structure Word where
  width : Nat
  value : Nat

namespace Word

def ofUInt8 (n : UInt8) : Word := ⟨1, n.toNat⟩

def ofUInt16 (n : UInt16) : Word := ⟨2, n.toNat⟩

def ofUInt32 (n : UInt32) : Word := ⟨4, n.toNat⟩

def ofUInt64 (n : UInt64) : Word := ⟨8, n.toNat⟩

/-- The bytes of a word, least significant first. -/
def bytes (w : Word) : Bytes := LittleEndian.encode w.width w.value

@[simp] theorem bytes_ofUInt8 (n : UInt8) : (ofUInt8 n).bytes = Layout.uint8.encode n := rfl

@[simp] theorem bytes_ofUInt16 (n : UInt16) : (ofUInt16 n).bytes = Layout.uint16.encode n := rfl

@[simp] theorem bytes_ofUInt32 (n : UInt32) : (ofUInt32 n).bytes = Layout.uint32.encode n := rfl

@[simp] theorem bytes_ofUInt64 (n : UInt64) : (ofUInt64 n).bytes = Layout.uint64.encode n := rfl

end Word

/-- The bytes of some words, one right behind another. -/
def packed (words : List Word) : Bytes := words.flatMap Word.bytes

@[simp] theorem packed_nil : packed [] = [] := rfl

@[simp] theorem packed_cons (w : Word) (ws : List Word) : packed (w :: ws) = w.bytes ++ packed ws :=
  rfl

@[simp] theorem packed_append (ws vs : List Word) : packed (ws ++ vs) = packed ws ++ packed vs :=
  List.flatMap_append ..

@[simp] theorem packed_map {α : Type} (f : α → Word) (xs : List α) :
    packed (xs.map f) = xs.flatMap fun x => (f x).bytes :=
  List.flatMap_map ..

@[simp] theorem packed_flatMap {α : Type} (f : α → List Word) (xs : List α) :
    packed (xs.flatMap f) = xs.flatMap fun x => packed (f x) :=
  List.flatMap_assoc ..

/-! ## What layouts store -/

namespace Layout

variable {α β : Type}

theorem encode_pair (a : Layout α) (b : Layout β) (p : α × β) :
    (a.pair b).encode p = a.encode p.1 ++ b.encode p.2 := rfl

theorem encode_array (l : Layout α) {n : Nat} (v : Vector α n) :
    (array n l).encode v = v.toList.flatMap l.encode := rfl

theorem encode_bytes {n : Nat} (v : Vector UInt8 n) :
    (bytes n).encode v = v.toList.flatMap uint8.encode := rfl

theorem encode_as (l : Layout α) (c : Correspondence α β) (b : β) :
    (l.as c).encode b = l.encode (c.parts b) := rfl

end Layout

/-! ## The structures -/

open Word in
def StatusHeader.words (h : StatusHeader) : List Word :=
  [ofUInt32 h.blockStatus, ofUInt32 h.rawDataOffset, ofUInt32 h.rawDataLength,
    ofUInt32 h.dataLength, ofUInt32 h.severity]

open Word in
def DataEntry.words (e : DataEntry) : List Word :=
  e.sectionType.bytes.toList.map ofUInt8 ++
    [ofUInt32 e.severity, ofUInt16 e.revision, ofUInt8 e.validationBits, ofUInt8 e.flags,
      ofUInt32 e.dataLength] ++
    e.unitId.toList.map ofUInt8 ++ e.unitText.toList.map ofUInt8 ++ [ofUInt64 e.timestamp]

open Word in
def ProcessorHeader.words (h : ProcessorHeader) : List Word :=
  [ofUInt32 h.validFields, ofUInt16 h.errorCount, ofUInt16 h.contextCount,
    ofUInt32 h.sectionLength, ofUInt8 h.affinityLevel] ++ h.reserved.toList.map ofUInt8 ++
    [ofUInt64 h.mpidr, ofUInt64 h.midr, ofUInt32 h.runningState, ofUInt32 h.powerState]

open Word in
def ProcessorError.words (e : ProcessorError) : List Word :=
  [ofUInt8 e.version, ofUInt8 e.length, ofUInt16 e.validFields, ofUInt8 e.errorType,
    ofUInt16 e.errorCount, ofUInt8 e.flags, ofUInt64 e.fault, ofUInt64 e.virtualAddress,
    ofUInt64 e.physicalAddress]

open Word in
def RegisterContext.words (c : RegisterContext) : List Word :=
  [ofUInt16 c.version, ofUInt16 c.kind, ofUInt32 c.registersLength] ++
    c.registers.toList.map ofUInt64

open Word in
def MemorySection.words (s : MemorySection) : List Word :=
  [ofUInt64 s.validFields, ofUInt64 s.errorStatus, ofUInt64 s.physicalAddress,
    ofUInt64 s.physicalAddressMask, ofUInt16 s.node, ofUInt16 s.card, ofUInt16 s.moduleRank,
    ofUInt16 s.bank, ofUInt16 s.device, ofUInt16 s.row, ofUInt16 s.column, ofUInt16 s.bitPosition,
    ofUInt64 s.requestorId, ofUInt64 s.responderId, ofUInt64 s.targetId, ofUInt8 s.errorType,
    ofUInt8 s.extended, ofUInt16 s.rankNumber, ofUInt16 s.cardHandle, ofUInt16 s.moduleHandle]

open Word in
def RegisterAddress.words (r : RegisterAddress) : List Word :=
  [ofUInt8 r.addressSpace, ofUInt8 r.bitWidth, ofUInt8 r.bitOffset, ofUInt8 r.accessSize,
    ofUInt64 r.address]

open Word in
def Notification.words (n : Notification) : List Word :=
  [ofUInt8 n.kind, ofUInt8 n.length, ofUInt16 n.writeEnable, ofUInt32 n.pollInterval,
    ofUInt32 n.vector, ofUInt32 n.pollingThreshold, ofUInt32 n.pollingWindow,
    ofUInt32 n.errorThreshold, ofUInt32 n.errorWindow]

open Word in
def Descriptor.words (d : Descriptor) : List Word :=
  [ofUInt16 d.kind, ofUInt16 d.sourceId, ofUInt16 d.relatedSourceId, ofUInt8 d.flags,
    ofUInt8 d.enabled, ofUInt32 d.recordsToPreallocate, ofUInt32 d.sectionsPerRecord,
    ofUInt32 d.rawDataLength] ++ d.statusAddress.words ++ d.notification.words ++
    [ofUInt32 d.statusBlockLength] ++ d.ackRegister.words ++
    [ofUInt64 d.ackPreserve, ofUInt64 d.ackWrite]

open Word in
def ProcessorSnapshot.words (s : ProcessorSnapshot) : List Word :=
  [ofUInt64 s.status, ofUInt64 s.misc, ofUInt64 s.address, ofUInt64 s.securityState] ++
    s.general.toList.map ofUInt64 ++ s.el1.toList.map ofUInt64 ++ s.el2.toList.map ofUInt64 ++
    s.el3.toList.map ofUInt64

def ProcessorSection.words (s : ProcessorSection) : List Word :=
  s.header.words ++ s.error.words ++ s.contexts.toList.flatMap RegisterContext.words

def RamEvent.words (e : RamEvent) : List Word :=
  [.ofUInt64 e.nonSecure]

/-- The structures that go over the wire. -/
inductive WireStructure
  | statusHeader
  | dataEntry
  | processorHeader
  | processorError
  | registerContext
  | memorySection
  | registerAddress
  | notification
  | descriptor
  | processorSnapshot
  | processorSection
  | ramEvent
deriving DecidableEq

namespace WireStructure

def Value : WireStructure → Type
  | statusHeader => StatusHeader
  | dataEntry => DataEntry
  | processorHeader => ProcessorHeader
  | processorError => ProcessorError
  | registerContext => RegisterContext
  | memorySection => MemorySection
  | registerAddress => RegisterAddress
  | notification => Notification
  | descriptor => Descriptor
  | processorSnapshot => ProcessorSnapshot
  | processorSection => ProcessorSection
  | ramEvent => RamEvent

/-- The layout that the library reads and writes a structure by. -/
def layout : (k : WireStructure) → Layout k.Value
  | statusHeader => StatusHeader.layout
  | dataEntry => DataEntry.layout
  | processorHeader => ProcessorHeader.layout
  | processorError => ProcessorError.layout
  | registerContext => RegisterContext.layout
  | memorySection => MemorySection.layout
  | registerAddress => RegisterAddress.layout
  | notification => Notification.layout
  | descriptor => Descriptor.layout
  | processorSnapshot => ProcessorSnapshot.layout
  | processorSection => ProcessorSection.layout
  | ramEvent => RamEvent.layout

/-- The numbers a structure is made of, in the order of its fields. -/
def words : (k : WireStructure) → k.Value → List Word
  | statusHeader => StatusHeader.words
  | dataEntry => DataEntry.words
  | processorHeader => ProcessorHeader.words
  | processorError => ProcessorError.words
  | registerContext => RegisterContext.words
  | memorySection => MemorySection.words
  | registerAddress => RegisterAddress.words
  | notification => Notification.words
  | descriptor => Descriptor.words
  | processorSnapshot => ProcessorSnapshot.words
  | processorSection => ProcessorSection.words
  | ramEvent => RamEvent.words

/-- How many bytes a structure takes. -/
def size : WireStructure → Nat
  | statusHeader => 20
  | dataEntry => 72
  | processorHeader => 40
  | processorError => 32
  | registerContext => 264
  | memorySection => 80
  | registerAddress => 12
  | notification => 28
  | descriptor => 92
  | processorSnapshot => 624
  | processorSection => 864
  | ramEvent => 8

theorem layout_size (k : WireStructure) : k.layout.size = k.size := by
  cases k <;> rfl

end WireStructure

/-! ## Fields in order -/

section

open Layout

theorem StatusHeader.encode_eq (h : StatusHeader) : layout.encode h = packed h.words := by
  simp [layout, encode_as, encode_pair, fields, words]

theorem DataEntry.encode_eq (e : DataEntry) : layout.encode e = packed e.words := by
  simp [layout, Guid.layout, encode_as, encode_pair, encode_bytes, fields, words]

theorem ProcessorHeader.encode_eq (h : ProcessorHeader) : layout.encode h = packed h.words := by
  simp [layout, encode_as, encode_pair, encode_bytes, fields, words]

theorem ProcessorError.encode_eq (e : ProcessorError) : layout.encode e = packed e.words := by
  simp [layout, encode_as, encode_pair, fields, words]

theorem RegisterContext.encode_eq (c : RegisterContext) : layout.encode c = packed c.words := by
  simp [layout, encode_as, encode_pair, encode_array, fields, words]

theorem MemorySection.encode_eq (s : MemorySection) : layout.encode s = packed s.words := by
  simp [layout, encode_as, encode_pair, fields, words]

theorem RegisterAddress.encode_eq (r : RegisterAddress) : layout.encode r = packed r.words := by
  simp [layout, encode_as, encode_pair, fields, words]

theorem Notification.encode_eq (n : Notification) : layout.encode n = packed n.words := by
  simp [layout, encode_as, encode_pair, fields, words]

theorem Descriptor.encode_eq (d : Descriptor) : layout.encode d = packed d.words := by
  simp [layout, encode_as, encode_pair, fields, words, RegisterAddress.encode_eq,
    Notification.encode_eq]

theorem ProcessorSnapshot.encode_eq (s : ProcessorSnapshot) :
    layout.encode s = packed s.words := by
  simp [layout, encode_as, encode_pair, encode_array, fields, words]

theorem ProcessorSection.encode_eq (s : ProcessorSection) : layout.encode s = packed s.words := by
  simp [layout, encode_as, encode_pair, encode_array, fields, words, ProcessorHeader.encode_eq,
    ProcessorError.encode_eq, funext RegisterContext.encode_eq]

theorem RamEvent.encode_eq (e : RamEvent) : layout.encode e = packed e.words := by
  simp [layout, encode_as, fields, words]

end

theorem WireStructure.encode_eq (k : WireStructure) (v : k.Value) :
    k.layout.encode v = packed (k.words v) := by
  cases k with
  | statusHeader => exact StatusHeader.encode_eq v
  | dataEntry => exact DataEntry.encode_eq v
  | processorHeader => exact ProcessorHeader.encode_eq v
  | processorError => exact ProcessorError.encode_eq v
  | registerContext => exact RegisterContext.encode_eq v
  | memorySection => exact MemorySection.encode_eq v
  | registerAddress => exact RegisterAddress.encode_eq v
  | notification => exact Notification.encode_eq v
  | descriptor => exact Descriptor.encode_eq v
  | processorSnapshot => exact ProcessorSnapshot.encode_eq v
  | processorSection => exact ProcessorSection.encode_eq v
  | ramEvent => exact RamEvent.encode_eq v

/-! ## Structures in buffers -/

namespace Placement

/-- A structure of `size` bytes can be placed so in a buffer of `length` bytes. -/
def Fits (size length : Nat) : Placement → Prop
  | whole => length = size
  | front => size ≤ length
  | back => size ≤ length

/-- Where it starts then. -/
def first (size length : Nat) : Placement → Nat
  | whole => 0
  | front => 0
  | back => length - size

variable {p : Placement} {size length : Nat}

theorem start_of_fits (h : p.Fits size length) :
    p.start size length = some (p.first size length) := by
  cases p <;> exact if_pos h

theorem start_of_not_fits (h : ¬ p.Fits size length) : p.start size length = none := by
  cases p <;> exact if_neg h

theorem first_add_le (h : p.Fits size length) : p.first size length + size ≤ length :=
  start_le (start_of_fits h)

end Placement

namespace Layout

variable {α : Type} (l : Layout α) {p : Placement} {buffer : Bytes}

theorem read_of_fits (h : p.Fits l.size buffer.length) :
    l.read p buffer = some (l.decode (buffer.drop (p.first l.size buffer.length)),
      buffer.take (p.first l.size buffer.length) ++
        buffer.drop (p.first l.size buffer.length + l.size)) := by
  rw [read, Placement.start_of_fits h]
  rfl

theorem read_of_not_fits (h : ¬ p.Fits l.size buffer.length) : l.read p buffer = none := by
  rw [read, Placement.start_of_not_fits h]
  rfl

theorem write_of_fits (h : p.Fits l.size buffer.length) (a : α) :
    l.write p a buffer =
      some (buffer.overwrite (p.first l.size buffer.length) (l.encode a)) := by
  rw [write, Placement.start_of_fits h]
  rfl

theorem write_of_not_fits (h : ¬ p.Fits l.size buffer.length) (a : α) :
    l.write p a buffer = none := by
  rw [write, Placement.start_of_not_fits h]
  rfl

/-- A buffer that is as long as the structure. -/
theorem read_whole (h : buffer.length = l.size) :
    l.read .whole buffer = some (l.decode buffer, []) := by
  rw [l.read_of_fits (p := .whole) h]
  simp [Placement.first, ← h]

theorem read_whole_take (h : l.size ≤ buffer.length) :
    l.read .whole (buffer.take l.size) = some (l.decode buffer, []) := by
  rw [l.read_whole (List.length_take_of_le h), l.decode_take h]

/-- What is asked of the way a structure of `size` bytes that is made of `words` is stored, read and
written. -/
structure RoundTrips (l : Layout α) (words : α → List Word) (size : Nat) : Prop where
  /-- It is stored as its words, one right behind another. -/
  stored : ∀ a, l.encode a = packed (words a)
  length : ∀ a, (l.encode a).length = size
  /-- What is written is read back. -/
  read_encode : ∀ a, l.read .whole (l.encode a) = some (a, [])
  /-- Bytes of the right length are those of a value. -/
  encode_read : ∀ bs : Bytes, bs.length = size →
    ∃ a, l.read .whole bs = some (a, []) ∧ l.encode a = bs
  readable : ∀ p bs, (l.read p bs).isSome = true ↔ Placement.Fits size bs.length p
  /-- At the front it is read as if its bytes were all there are, and the others are left. -/
  front : ∀ bs, l.read .front bs =
    (l.read .whole (bs.take size)).map fun r => (r.1, bs.drop size)
  /-- At the back as well. -/
  back : ∀ bs, l.read .back bs =
    (l.read .whole (bs.drop (bs.length - size))).map fun r => (r.1, bs.take (bs.length - size))
  left : ∀ p bs a rest, l.read p bs = some (a, rest) → rest.length = bs.length - size
  /-- Where it fits, its bytes are replaced and no others. -/
  written : ∀ p a bs, Placement.Fits size bs.length p → ∃ bs', l.write p a bs = some bs' ∧
    bs'.length = bs.length ∧
    bs'.window (p.first size bs.length) size = l.encode a ∧
    ∀ i, i < p.first size bs.length ∨ p.first size bs.length + size ≤ i → bs'[i]? = bs[i]?
  /-- Where it does not fit, nothing is written. -/
  refused : ∀ p a bs, ¬ Placement.Fits size bs.length p → l.write p a bs = none

/-- **Every layout makes round trips**, if it stores the words. -/
theorem roundTrips {words : α → List Word} (h : ∀ a, l.encode a = packed (words a)) :
    l.RoundTrips words l.size where
  stored := h
  length := l.length_encode
  read_encode a := by rw [l.read_whole (l.length_encode a), l.decode_encode]
  encode_read bs hbs := by
    refine ⟨l.decode bs, l.read_whole hbs, ?_⟩
    rw [l.encode_decode bs (Nat.le_of_eq hbs.symm), ← hbs, List.take_length]
  readable p bs := by
    by_cases hp : p.Fits l.size bs.length
    · simp [l.read_of_fits hp, hp]
    · simp [l.read_of_not_fits hp, hp]
  front bs := by
    by_cases hp : l.size ≤ bs.length
    · rw [l.read_front hp, l.read_whole_take hp]
      rfl
    · rw [l.read_of_not_fits (p := .front) hp, l.read_of_not_fits (p := .whole)]
      · rfl
      · simp [Placement.Fits]
        omega
  back bs := by
    by_cases hp : l.size ≤ bs.length
    · have hlength : (bs.drop (bs.length - l.size)).length = l.size := by simp; omega
      rw [l.read_of_fits (p := .back) hp, l.read_whole hlength]
      simp [Placement.first, Nat.sub_add_cancel hp]
    · rw [l.read_of_not_fits (p := .back) hp, l.read_of_not_fits (p := .whole)]
      · rfl
      · simp [Placement.Fits]
        omega
  left p bs a rest hread := by
    by_cases hp : p.Fits l.size bs.length
    · rw [l.read_of_fits hp] at hread
      cases hread
      have hfirst := Placement.first_add_le hp
      simp
      omega
    · rw [l.read_of_not_fits hp] at hread
      cases hread
  written p a bs hp := by
    have hfirst := Placement.first_add_le hp
    have hlength := l.length_encode a
    have hfit : p.first l.size bs.length + (l.encode a).length ≤ bs.length := by omega
    refine ⟨_, l.write_of_fits hp a, Bytes.length_overwrite .., ?_, fun i hi => ?_⟩
    · have hwindow := Bytes.window_overwrite_self hfit
      rwa [hlength] at hwindow
    · rw [Bytes.getElem?_overwrite hfit, if_neg (by omega)]
  refused p a bs hp := l.write_of_not_fits hp a

end Layout

/-- **The wire format makes round trips.** Each of the twelve structures is stored as its fields in
order, packed and little-endian, on as many bytes as it claims; what is written is read back, and
every run of that many bytes is what its value is stored as. It is read from a buffer of any length
just where it fits, and there as from its own bytes alone; writing it replaces its own bytes, or
nothing where it does not fit. -/
theorem wire_round_trips (k : WireStructure) : k.layout.RoundTrips k.words k.size := by
  rw [← k.layout_size]
  exact k.layout.roundTrips k.encode_eq

/-- A register address is stored on twelve bytes, the address least significant byte first. -/
example : RegisterAddress.layout.write .back (.inMemory 0x2008) (List.replicate 13 7) =
    some [7, 0, 64, 0, 4, 8, 0x20, 0, 0, 0, 0, 0, 0] := by
  decide +kernel

end FirmwareFirst
