import FirmwareFirst.Proofs.RegionMemory
import FirmwareFirst.Proofs.Trace

/-!
# Regions that differ in their bytes

Two regions are beside each other if they have the same layout and size, at the same address, and
neither or both are prepared; their bytes may differ unless a proposition `same` holds. What is
answered and logged of a region depends on nothing else, so that regions beside each other are
prepared and written alike. Two states are beside each other if their regions are and nothing else
tells them apart.
-/

namespace FirmwareFirst

/-! ## Regions -/

namespace Region

variable {same : Prop} {r r' : Region}

/-- Two regions differ in their bytes at most, and not even there if `same` holds. -/
structure Beside (same : Prop) (r r' : Region) : Prop where
  base : r'.base = r.base
  maxSection : r'.maxSection = r.maxSection
  prepared : r'.prepared = r.prepared
  length : r'.memory.length = r.memory.length
  memory : same → r'.memory = r.memory

namespace Beside

theorem refl (same : Prop) (r : Region) : Beside same r r :=
  ⟨rfl, rfl, rfl, rfl, fun _ => rfl⟩

theorem eq (h : r.Beside same r') (hs : same) : r' = r := by
  obtain ⟨base, memory, maxSection, prepared, fits⟩ := r
  obtain ⟨base', memory', maxSection', prepared', fits'⟩ := r'
  obtain ⟨hbase, hmax, hprepared, -, hmemory⟩ := h
  cases hbase
  cases hmax
  cases hprepared
  cases hmemory hs
  rfl

theorem address_eq (h : r.Beside same r') (z : Zone) : r'.address z = r.address z := by
  rw [address, address, h.base, h.maxSection]

theorem prepare (h : r.Beside same r') :
    r.prepare.1.Beside same r'.prepare.1 ∧ r'.prepare.2 = r.prepare.2 := by
  cases hp : r.prepared with
  | true =>
    rw [prepare_of_prepared hp, prepare_of_prepared (h.prepared.trans hp)]
    exact ⟨h, rfl⟩
  | false =>
    have hp' : r'.prepared = false := h.prepared.trans hp
    have hmemory : same → r'.prepare.1.memory = r.prepare.1.memory := fun hs => by rw [h.eq hs]
    have hlength : r'.prepare.1.memory.length = r.prepare.1.memory.length := by
      rw [length_memory_prepare, length_memory_prepare, h.length]
    rw [prepare_eq hp, prepare_eq hp', h.length] at hmemory hlength ⊢
    split at hmemory
    · rename_i hl
      rw [if_pos hl, if_pos hl] at hlength
      rw [if_pos hl, if_pos hl]
      refine ⟨⟨h.base, h.maxSection, rfl, hlength, hmemory⟩, ?_⟩
      rw [h.base, blockLength, blockLength, h.maxSection]
    · rename_i hl
      rw [if_neg hl, if_neg hl] at hlength
      rw [if_neg hl, if_neg hl]
      exact ⟨⟨h.base, h.maxSection, h.prepared, hlength, hmemory⟩, rfl⟩

theorem store (h : r.Beside same r') (start : Nat) {data data' : Bytes}
    (hdata : same → data' = data) : (r.store start data).Beside same (r'.store start data') := by
  refine ⟨h.base, h.maxSection, h.prepared, ?_, fun hs => ?_⟩
  · exact (Bytes.length_overwrite ..).trans (h.length.trans (Bytes.length_overwrite ..).symm)
  · rw [h.eq hs, hdata hs]

theorem fillAll (h : r.Beside same r') {pieces pieces' : List Piece}
    (hpieces : same → pieces' = pieces) :
    (r.fillAll pieces).1.Beside same (r'.fillAll pieces').1 := by
  refine ⟨?_, ?_, ?_, ?_, fun hs => by rw [h.eq hs, hpieces hs]⟩
  · rw [fillAll_fixed base_store, fillAll_fixed base_store, h.base]
  · rw [fillAll_fixed maxSection_store, fillAll_fixed maxSection_store, h.maxSection]
  · rw [fillAll_fixed prepared_store, fillAll_fixed prepared_store, h.prepared]
  · have hstore : ∀ (s : Region) start data, (s.store start data).memory.length =
        s.memory.length := fun _ _ _ => Bytes.length_overwrite ..
    rw [fillAll_fixed (f := fun s => s.memory.length) hstore,
      fillAll_fixed (f := fun s => s.memory.length) hstore, h.length]

theorem outside (h : r.Beside same r') (e : Outside) :
    (r.outside e).Beside same (r'.outside e) := by
  cases e with
  | writeMemory offset data => exact h.store offset fun _ => rfl
  | _ => exact h

/-- Of two regions with two reports of the same length, one takes its report if the other does, and
then the same is logged. -/
theorem publish (h : r.Beside same r') (sectionType : Guid) (report report' : Report Bytes)
    (hsummary : report'.summary = report.summary)
    (hlength : report'.content.length = report.content.length) (hreport : same → report' = report) :
    (r.publish sectionType report).1.Beside same (r'.publish sectionType report').1 ∧
      (r'.publish sectionType report').2 = (r.publish sectionType report).2 := by
  rw [Region.publish, Region.publish, write_eq, write_eq, h.prepared, h.maxSection, h.length,
    hlength]
  by_cases hp : (!r.prepared) = true
  · rw [if_pos hp, if_pos hp]
    exact ⟨h, rfl⟩
  rw [if_neg hp, if_neg hp]
  by_cases hlarge : r.maxSection < report.content.length
  · rw [if_pos hlarge, if_pos hlarge]
    exact ⟨h, rfl⟩
  rw [if_neg hlarge, if_neg hlarge]
  by_cases hroom : 108 + report.content.length ≤ r.memory.length
  · rw [if_pos hroom, if_pos hroom]
    refine ⟨h.store 16 fun hs => by rw [hreport hs], ?_⟩
    simp only [writtenMessage, address_store, h.address_eq, hsummary, hlength]
  · rw [if_neg hroom, if_neg hroom]
    exact ⟨h.fillAll fun hs => by rw [hreport hs], rfl⟩

end Beside
end Region

/-! ## States -/

/-- Two states differ in the bytes of the region at most, and not even there if `same` holds. -/
def State.Beside {σ : Type} (same : Prop) (m n : State σ) : Prop :=
  ∃ region, m.region.Beside same region ∧ n = { m with region := region }

namespace State.Beside

variable {σ : Type} {same : Prop} {m n : State σ}

theorem refl (same : Prop) (m : State σ) : Beside same m m :=
  ⟨m.region, .refl same m.region, rfl⟩

theorem eq (h : m.Beside same n) (hs : same) : n = m := by
  obtain ⟨region, hr, rfl⟩ := h
  rw [hr.eq hs]

theorem region (h : m.Beside same n) : m.region.Beside same n.region := by
  obtain ⟨region, hr, rfl⟩ := h
  exact hr

theorem hold_eq (h : m.Beside same n) : n.hold = m.hold := by
  obtain ⟨region, hr, rfl⟩ := h
  rfl

theorem core_eq (h : m.Beside same n) : n.core = m.core := by
  obtain ⟨region, hr, rfl⟩ := h
  rfl

theorem capturing_eq (h : m.Beside same n) : n.capturing = m.capturing := by
  obtain ⟨region, hr, rfl⟩ := h
  rfl

theorem platform_eq (h : m.Beside same n) : n.platform = m.platform := by
  obtain ⟨region, hr, rfl⟩ := h
  rfl

theorem say (h : m.Beside same n) (messages : List Message) :
    (m.say messages).Beside same (n.say messages) := by
  obtain ⟨region, hr, rfl⟩ := h
  exact ⟨region, hr, rfl⟩

theorem lock (h : m.Beside same n) : m.lock.Beside same n.lock := by
  obtain ⟨region, hr, rfl⟩ := h
  exact ⟨region, hr, rfl⟩

theorem unlock (h : m.Beside same n) : m.unlock.Beside same n.unlock := by
  obtain ⟨region, hr, rfl⟩ := h
  exact ⟨region, hr, rfl⟩

theorem core (h : m.Beside same n) (c : CoreRecord → CoreRecord) :
    Beside same { m with core := c m.core } { n with core := c n.core } := by
  obtain ⟨region, hr, rfl⟩ := h
  exact ⟨region, hr, rfl⟩

theorem held (h : m.Beside same n) (hold : Hold) :
    Beside same { m with hold := hold } { n with hold := hold } := by
  obtain ⟨region, hr, rfl⟩ := h
  exact ⟨region, hr, rfl⟩

theorem withRegion (h : m.Beside same n) {r r' : Region} (hr : r.Beside same r') :
    Beside same { m with region := r } { n with region := r' } := by
  obtain ⟨region, -, rfl⟩ := h
  exact ⟨r', hr, rfl⟩

theorem outside (h : m.Beside same n) (e : Outside) :
    (m.outside e).Beside same (n.outside e) := by
  obtain ⟨region, hr, rfl⟩ := h
  cases e with
  | writeMemory offset data => exact ⟨_, hr.outside (.writeMemory offset data), rfl⟩
  | _ => exact ⟨region, hr, rfl⟩

theorem base_view (h : m.Beside same n) : n.view.map Region.base = m.view.map Region.base := by
  obtain ⟨region, hr, rfl⟩ := h
  unfold view
  cases hm : m.hold with
  | exclusive => rfl
  | _ => exact congrArg Except.ok hr.base

end State.Beside

end FirmwareFirst
