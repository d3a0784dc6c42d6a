import Mathlib.Algebra.Group.Nat.Defs
import FirmwareFirst.ErrorSource.State
import FirmwareFirst.Proofs.EventOutcomes

/-!
# Accesses in bounds

When a region is made, the size of its memory is looked at once, and then all accesses are to lie in
it. Here every access is made anew on a `Ground`, which is memory used as a region whether or not it
has room for one, and each access that does not lie in the memory comes to nothing.
`regions_in_bounds` says that, where all lengths can be counted, memory is accepted if and only if
all accesses lie in it.
-/

namespace FirmwareFirst

/-! ## Checked accesses -/

/-- The bytes from `first` up to `behind`, if the run has them. -/
def Bytes.slice? (m : Bytes) (first behind : Nat) : Option Bytes :=
  if first ≤ behind ∧ behind ≤ m.length then some (m.window first (behind - first)) else none

theorem Bytes.slice?_eq_none_iff {m : Bytes} {first behind : Nat} :
    m.slice? first behind = none ↔ first ≤ behind → m.length < behind := by
  simp [slice?]

namespace Region.Piece

/-- The run with a piece of it filled, if it has the piece. -/
def fill? (p : Piece) (m : Bytes) : Option Bytes :=
  if p.Within m.length then some (m.overwrite p.first p.data) else none

/-- The run with some pieces of it filled, one after the other. -/
def fillAll? (pieces : List Piece) (m : Bytes) : Option Bytes :=
  pieces.foldlM (fun m p => p.fill? m) m

/-- Pieces that lie in the run are filled. -/
theorem fillAll?_of_within {pieces : List Piece} {m : Bytes}
    (h : ∀ p ∈ pieces, p.Within m.length) :
    fillAll? pieces m = some (pieces.foldl (fun m p => m.overwrite p.first p.data) m) := by
  induction pieces generalizing m with
  | nil => rfl
  | cons p rest ih =>
    have hp : p.fill? m = some (m.overwrite p.first p.data) :=
      if_pos (h p List.mem_cons_self)
    -- The run is as long as before, so the pieces behind this one still lie in it.
    have hrest : fillAll? rest (m.overwrite p.first p.data) = _ := ih fun q hq => by
      rw [Bytes.length_overwrite]
      exact h q (List.mem_cons_of_mem p hq)
    rw [fillAll?, List.foldlM_cons, hp]
    exact hrest

end Region.Piece

/-! ## Memory used as a region -/

/-- Memory that is used as a region for sections of `maxSection` bytes, whether or not it has room
for one. -/
structure Ground where
  base : UInt64
  memory : Bytes
  maxSection : Nat
  prepared : Bool

/-- The memory of a region, used as the region it is. -/
def Region.ground (r : Region) : Ground := ⟨r.base, r.memory, r.maxSection, r.prepared⟩

namespace Ground

open Region (Piece)

/-- The bytes of a zone, if the memory has them. -/
def read? (g : Ground) (z : Zone) : Option Bytes :=
  g.memory.slice? (z.offset g.maxSection) (z.offset g.maxSection + z.length g.maxSection)

/-- The register of a zone filled with the address of another. -/
def pointer (g : Ground) (register data : Zone) : Piece where
  first := register.offset g.maxSection
  behind := register.offset g.maxSection + Layout.uint64.size
  data := Layout.uint64.encode (g.base + UInt64.ofNat (data.offset g.maxSection))

/-- The ground ready for reports, if it can be made so. -/
def prepare? (g : Ground) : Option Ground :=
  if g.prepared then some g
  else
    (Piece.fillAll? [g.pointer .statusRegister .statusData, g.pointer .ackRegister .ackData]
      g.memory.cleared).map fun memory => { g with memory := memory, prepared := true }

/-- The ground with a report in its status block, or why it is refused, if the report can be
written. -/
def write? (g : Ground) (sectionType : Guid) (report : Report Bytes) :
    Option (Except CallError Ground) :=
  if !g.prepared then some (.error .notReady)
  else if g.maxSection < report.content.length then some (.error .sectionTooLarge)
  else
    (Piece.fillAll? (Region.pieces sectionType report) g.memory).map fun memory =>
      .ok { g with memory := memory }

/-- All accesses that are ever made lie in the memory. -/
structure InBounds (g : Ground) : Prop where
  read : ∀ z, (g.read? z).isSome
  prepare : g.prepare?.isSome
  write : ∀ sectionType report, (g.write? sectionType report).isSome

end Ground

namespace Region

/-- The accesses to a region are those to its memory, and all of them succeed. -/
structure Checked (r : Region) : Prop where
  read : ∀ z, r.ground.read? z = some (r.read z)
  prepare : r.ground.prepare? = some r.prepare.1.ground ∧ r.prepare.2.isSome = true
  write : ∀ sectionType report, ∃ result, r.write sectionType report = some result ∧
    r.ground.write? sectionType report = some (result.map ground)

variable {r : Region}

theorem ground_read? (hlayout : Addressable r.maxSection) (z : Zone) :
    r.ground.read? z = some (r.read z) := by
  have hl : z.offset r.maxSection + z.length r.maxSection ≤ r.memory.length :=
    Nat.le_trans (hlayout.offset_add_length_le z) r.fits
  simp [Ground.read?, Bytes.slice?, ground, hl, read]

theorem ground_prepare? (hl : 16 ≤ r.memory.length) :
    r.ground.prepare? = some r.prepare.1.ground := by
  cases hp : r.prepared with
  | true => simp [Ground.prepare?, ground, hp, prepare]
  | false =>
    have hsize : Layout.uint64.size = 8 := rfl
    have hregisters : ∀ p ∈ [r.ground.pointer .statusRegister .statusData,
        r.ground.pointer .ackRegister .ackData], p.Within r.memory.cleared.length := by
      intro p h
      simp only [List.mem_cons, List.not_mem_nil, or_false] at h
      rcases h with rfl | rfl
      all_goals
        constructor <;> simp [Ground.pointer, Zone.offset, length_encode_uint64, hsize]
        omega
    rw [prepare_eq hp, if_pos hl, Ground.prepare?, if_neg (by simp [ground, hp])]
    exact congrArg _ (Piece.fillAll?_of_within hregisters)

/-- Stores into a region are stores into its memory. -/
theorem ground_storeAll (r : Region) (pieces : List Piece) :
    (r.storeAll pieces).ground =
      { r.ground with
        memory := pieces.foldl (fun m p => m.overwrite p.first p.data) r.memory } := by
  induction pieces generalizing r with
  | nil => rfl
  | cons p rest ih => exact ih (r.store p.first p.data)

theorem ground_write? (hlayout : Addressable r.maxSection) (sectionType : Guid)
    (report : Report Bytes) : ∃ result, r.write sectionType report = some result ∧
      r.ground.write? sectionType report = some (result.map ground) := by
  cases hp : r.prepared with
  | false =>
    exact ⟨.error .notReady, by simp [write, hp], by simp [Ground.write?, ground, hp, Except.map]⟩
  | true =>
    by_cases hlarge : r.maxSection < report.content.length
    · exact ⟨.error .sectionTooLarge, by simp [write, hp, hlarge], by
        simp [Ground.write?, ground, hp, hlarge, Except.map]⟩
    · have hl := r.length_memory hlayout
      have hroom : 108 + report.content.length ≤ r.memory.length := by omega
      refine ⟨.ok (r.storeAll (pieces sectionType report)), ?_, ?_⟩
      · rw [storeAll_pieces sectionType hroom]
        exact write_eq_ok_iff.2 ⟨hp, by omega, hroom, rfl⟩
      · rw [Except.map, ground_storeAll, Ground.write?, if_neg (by simp [ground, hp]),
          if_neg (by simp [ground, hlarge])]
        exact congrArg _ (Piece.fillAll?_of_within (pieces_within sectionType hroom))

theorem checked (hlayout : Addressable r.maxSection) : r.Checked := by
  have hl := r.length_memory hlayout
  have hregisters : 16 ≤ r.memory.length := by omega
  exact ⟨ground_read? hlayout,
    ⟨ground_prepare? hregisters, prepare_returns_iff.2 (.inr hregisters)⟩, ground_write? hlayout⟩

end Region

namespace Ground

variable {g : Ground}

/-- The acknowledgement lies at the end of what a region takes. -/
theorem read?_ackData_eq_none_iff (hlayout : Addressable g.maxSection) :
    g.read? .ackData = none ↔ g.memory.length < 116 + g.maxSection := by
  have hl : Zone.ackData.length g.maxSection = 8 := rfl
  rw [read?, Bytes.slice?_eq_none_iff, hlayout.offset_ackData, hl]
  omega

/-- All accesses lie in the memory if it is large enough, and only then. -/
theorem inBounds_iff (hlayout : Addressable g.maxSection) :
    g.InBounds ↔ 116 + g.maxSection ≤ g.memory.length := by
  constructor
  · intro h
    by_contra hsmall
    have hack : g.read? .ackData = none := (read?_ackData_eq_none_iff hlayout).2 (by omega)
    exact absurd (h.read .ackData) (by simp [hack])
  · intro hfits
    have hrequired : requiredSize g.maxSection ≤ g.memory.length := by
      rwa [hlayout.requiredSize_eq]
    have h : (Region.mk g.base g.memory g.maxSection g.prepared hrequired).Checked :=
      Region.checked hlayout
    refine ⟨fun z => Option.isSome_of_eq_some (h.read z), Option.isSome_of_eq_some h.prepare.1,
      fun sectionType report => ?_⟩
    obtain ⟨result, -, hwrite⟩ := h.write sectionType report
    exact Option.isSome_of_eq_some hwrite

end Ground

/-! ## Zones one behind the other -/

/-- The zones of a region lie one behind the other, none meets another, all lie in the memory, and
their addresses are those of the bytes they start with. -/
structure Region.LaidOut (r : Region) : Prop where
  consecutive : [Zone.ackRegister, .statusRegister, .statusData, .ackData].IsChain fun z next =>
    next.offset r.maxSection = z.offset r.maxSection + z.length r.maxSection
  disjoint : ∀ {z z' : Zone} {i}, z.Covers r.maxSection i → z'.Covers r.maxSection i → z = z'
  within : ∀ {z : Zone} {i}, z.Covers r.maxSection i → i < r.size
  address : ∀ z : Zone, (r.address z).toNat = r.base.toNat + z.offset r.maxSection

/-- No two zones meet. -/
theorem Zone.eq_of_covers {maxSection i : Nat} (hlayout : Addressable maxSection) {z z' : Zone}
    (h : z.Covers maxSection i) (h' : z'.Covers maxSection i) : z = z' := by
  have hack := hlayout.offset_ackData
  simp only [Covers, hlayout.length_eq] at h h'
  cases z <;> cases z' <;> simp [offset] at h h' hack ⊢ <;> omega

/-- A region that ends where addresses do, or before, is laid out as it should be. -/
theorem Region.laidOut {r : Region} (hlayout : Addressable r.maxSection)
    (hend : r.base.toNat + r.size ≤ 2 ^ 64) : r.LaidOut := by
  have hfits : ∀ z : Zone, z.offset r.maxSection + z.length r.maxSection ≤ r.size := fun z =>
    Nat.le_trans (hlayout.offset_add_length_le z) r.fits
  refine ⟨?_, Zone.eq_of_covers hlayout, fun {z i} h => ?_, fun z => ?_⟩
  · have hack := hlayout.offset_ackData
    simp [Zone.offset, hlayout.length_eq] at hack ⊢
    omega
  · exact Nat.lt_of_lt_of_le h.2 (hfits z)
  · have hz := hfits z
    have hlength : 0 < z.length r.maxSection := by
      rw [hlayout.length_eq]
      split <;> omega
    have hoffset : z.offset r.maxSection < 2 ^ 64 := by omega
    rw [Region.address, UInt64.toNat_add, UInt64.toNat_ofNat_of_lt' hoffset]
    exact Nat.mod_eq_of_lt (by omega)

/-! ## Making a region -/

namespace SourceConfig

variable {c : SourceConfig} {physical : UInt64 → UInt8} {maxSection : Nat}

/-- What comes of making a region, in all ways there are, over the memory that a configuration
names: from the memory, from where it lies, and from the configuration. -/
def attempts (c : SourceConfig) (physical : UInt64 → UInt8) (maxSection : Nat) :
    List (Except Rejection Region) :=
  [Region.ofMemory c.regionBase (Region.contents physical c.regionBase c.regionSize) maxSection,
    Region.ofReserved physical c.regionBase c.regionSize maxSection,
    c.region physical maxSection]

theorem attempts_of_fits (hlayout : Addressable maxSection) (physical : UInt64 → UInt8)
    (hbase : c.regionBase ≠ 0) (hfits : 116 + maxSection ≤ c.regionSize) :
    ∃ r : Region, c.attempts physical maxSection = List.replicate 3 (.ok r) ∧
      r.base = c.regionBase ∧ r.memory = Region.contents physical c.regionBase c.regionSize ∧
      r.maxSection = maxSection := by
  have hrequired : requiredSize maxSection ≤ c.regionSize := by rwa [hlayout.requiredSize_eq]
  refine ⟨⟨c.regionBase, Region.contents physical c.regionBase c.regionSize, maxSection, false,
    by rwa [Region.length_contents]⟩, ?_, rfl, rfl, rfl⟩
  simp [attempts, region, Region.ofMemory, Region.ofReserved, hbase, hrequired]

theorem attempts_of_too_small (hlayout : Addressable maxSection) (hbase : c.regionBase ≠ 0)
    (hsmall : c.regionSize < 116 + maxSection) :
    ∀ o ∈ c.attempts physical maxSection, ∃ log, o = .error ⟨.regionTooSmall, log⟩ := by
  have hrequired : ¬ requiredSize maxSection ≤ c.regionSize := by
    rw [hlayout.requiredSize_eq]
    omega
  simp [attempts, region, Region.ofMemory, Region.ofReserved, hbase, hrequired]

/-- No memory is reserved at address zero, whatever its size is said to be. -/
theorem region_of_null (hbase : c.regionBase = 0) :
    Region.ofReserved physical c.regionBase c.regionSize maxSection =
        .error ⟨.invalidParameter, []⟩ ∧
      c.region physical maxSection = .error ⟨.invalidParameter, []⟩ := by
  have hreserved : Region.ofReserved physical c.regionBase c.regionSize maxSection =
      .error ⟨.invalidParameter, []⟩ := by
    rw [Region.ofReserved, if_pos hbase]
  exact ⟨hreserved, hreserved⟩

/-- A region that is made from a configuration is laid out as it was asked for, and that its
sections are too long is never why there is none. -/
theorem region_cases (c : SourceConfig) (physical : UInt64 → UInt8) (maxSection : Nat) :
    (∃ r, c.region physical maxSection = .ok r ∧ r.maxSection = maxSection) ∨
    ∃ rejection, c.region physical maxSection = .error rejection ∧
      rejection.error ≠ .sectionTooLarge := by
  unfold region Region.ofReserved
  split
  · exact .inr ⟨_, rfl, by simp⟩
  · split
    · exact .inl ⟨_, rfl, rfl⟩
    · exact .inr ⟨_, rfl, by simp⟩

end SourceConfig

/-! ## Making an error source -/

namespace ErrorSource

variable {κ ρ σ : Type}

/-- An error source takes the regions that have room for its sections, and no others, and those
which are made for it have room. -/
structure Selective (E : ErrorSource κ ρ σ) : Prop where
  accepts : ∀ region platform,
    (∃ m, E.start region platform = .ok m) ↔ E.source.maxSection ≤ region.maxSection
  refuses : ∀ region platform rejection,
    E.start region platform = .error rejection → rejection.error = .sectionTooLarge
  reserved : ∀ physical platform rejection,
    E.startReserved physical platform = .error rejection → rejection.error ≠ .sectionTooLarge

theorem start_of_room {E : ErrorSource κ ρ σ} {region : Region} (platform : Platform)
    (hroom : E.source.maxSection ≤ region.maxSection) :
    ∃ m, E.start region platform = .ok m := by
  rw [start, if_neg (by omega)]
  exact ⟨_, rfl⟩

theorem selective (E : ErrorSource κ ρ σ) : E.Selective := by
  constructor
  case accepts =>
    intro region platform
    exact ⟨fun ⟨m, h⟩ => (of_start h).1, start_of_room platform⟩
  case refuses =>
    intro region platform rejection h
    unfold start at h
    split at h
    · cases h
      rfl
    · cases h
  case reserved =>
    intro physical platform rejection h
    rcases E.config.region_cases physical E.source.maxSection with
      ⟨region, hregion, hmax⟩ | ⟨other, hregion, hother⟩
    · obtain ⟨m, hm⟩ := start_of_room platform (by omega : E.source.maxSection ≤ region.maxSection)
      rw [startReserved, hregion] at h
      cases hm.symm.trans h
    · rw [startReserved, hregion] at h
      cases h
      exact hother

end ErrorSource

/-- **Memory is accepted if and only if all accesses lie in it.** Let memory end where addresses do,
or before, and let the sections be no longer than can be counted. In whichever way a region is made,
it is the same region, if the memory has room for all zones, and else it is refused, since at least
the acknowledgement would not lie in the memory; address zero is refused before the size is looked
at. Whatever a region that was accepted holds later and whether or not it is prepared, its zones lie
one behind the other in its memory and all accesses to it succeed. An error source takes the
regions with room for its sections, and the one that is made for it has room. -/
theorem regions_in_bounds (c : SourceConfig) (physical : UInt64 → UInt8) (maxSection : Nat)
    (hbase : c.regionBase ≠ 0) (hend : c.regionBase.toNat + c.regionSize ≤ 2 ^ 64)
    (hmax : maxSection ≤ 2 ^ 64 - 117) :
    (requiredSize maxSection = 116 + maxSection ∧ requiredSize maxSection < 2 ^ 64) ∧
    (116 + maxSection ≤ c.regionSize →
      ∃ r : Region, c.attempts physical maxSection = List.replicate 3 (.ok r) ∧
        r.base = c.regionBase ∧ r.size = c.regionSize ∧ r.maxSection = maxSection ∧
        ∀ later : Region, later.base = r.base → later.size = r.size →
          later.maxSection = r.maxSection → later.LaidOut ∧ later.Checked) ∧
    (c.regionSize < 116 + maxSection →
      ∀ o ∈ c.attempts physical maxSection, ∃ log, o = .error ⟨.regionTooSmall, log⟩) ∧
    (∀ g : Ground, g.memory.length = c.regionSize → g.maxSection = maxSection →
      (g.InBounds ↔ 116 + maxSection ≤ c.regionSize) ∧
      (g.read? .ackData = none ↔ c.regionSize < 116 + maxSection)) ∧
    (∀ d : SourceConfig, d.regionBase = 0 → ∀ maxSection,
      Region.ofReserved physical d.regionBase d.regionSize maxSection =
          .error ⟨.invalidParameter, []⟩ ∧
        d.region physical maxSection = .error ⟨.invalidParameter, []⟩) ∧
    ∀ {κ ρ σ : Type} (E : ErrorSource κ ρ σ), E.Selective := by
  have hlayout : Addressable maxSection := by
    unfold Addressable
    omega
  refine ⟨⟨hlayout.requiredSize_eq, ?_⟩, fun hfits => ?_,
    SourceConfig.attempts_of_too_small hlayout hbase, ?_,
    fun d hnull maxSection => SourceConfig.region_of_null hnull, ErrorSource.selective⟩
  · rw [hlayout.requiredSize_eq]
    omega
  · obtain ⟨r, hr, hrbase, hmemory, hrmax⟩ :=
      SourceConfig.attempts_of_fits hlayout physical hbase hfits
    have hsize : r.size = c.regionSize := by rw [Region.size, hmemory, Region.length_contents]
    refine ⟨r, hr, hrbase, hsize, hrmax, fun later hb hs hm => ?_⟩
    have hlater : Addressable later.maxSection := by rwa [hm, hrmax]
    refine ⟨Region.laidOut hlater ?_, Region.checked hlater⟩
    rw [hb, hs, hrbase, hsize]
    exact hend
  · intro g hsize hsections
    rw [← hsections] at hlayout
    rw [Ground.inBounds_iff hlayout, Ground.read?_ackData_eq_none_iff hlayout, hsize, hsections]
    exact ⟨Iff.rfl, Iff.rfl⟩

namespace Sample

/-- A source with `size` bytes reserved for it, which end where addresses do if they are 120. -/
def reserved (size : Nat) : SourceConfig :=
  ⟨7, 0x80, descriptorProtocol, 0xffffffffffffff88, size⟩

end Sample

/-- There is room for sections of four bytes in the last 120 bytes there are, but not in one byte
less. -/
theorem regions_in_bounds_sample :
    (∃ r, (Sample.reserved 120).attempts (fun _ => 0xaa) 4 = List.replicate 3 (.ok r) ∧
      r.LaidOut ∧ r.Checked) ∧
    (∀ o ∈ (Sample.reserved 119).attempts (fun _ => 0xaa) 4,
      ∃ log, o = .error ⟨.regionTooSmall, log⟩) ∧
    ∀ g : Ground, g.memory.length = 119 → g.maxSection = 4 →
      ¬ g.InBounds ∧ g.read? .ackData = none := by
  obtain ⟨-, haccepted, -⟩ := regions_in_bounds (Sample.reserved 120) (fun _ => 0xaa) 4
    (by decide) (by decide) (by decide)
  obtain ⟨-, -, hrefused, hground, -⟩ := regions_in_bounds (Sample.reserved 119) (fun _ => 0xaa) 4
    (by decide) (by decide) (by decide)
  obtain ⟨r, hr, -, -, -, hlater⟩ := haccepted (by decide)
  refine ⟨⟨r, hr, hlater r rfl rfl rfl⟩, hrefused (by decide), fun g hsize hsections => ?_⟩
  obtain ⟨hbounds, hack⟩ := hground g hsize hsections
  exact ⟨fun h => absurd (hbounds.1 h) (by decide), hack.2 (by decide)⟩

end FirmwareFirst
