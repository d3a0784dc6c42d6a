import FirmwareFirst.Proofs.InterfaceCalls
import FirmwareFirst.Proofs.WireFormat

/-!
# Descriptors that stay

A caller may ask an error source for its descriptor as often as it likes, in three ways: with its
variables at hand, through the interface, or as a value. `descriptors_agree` says that it is told
the same bytes each time, and that asking once more disturbs neither a report nor an
acknowledgement; only the first time the region is prepared, and then nothing is left of what the
memory held.
-/

namespace FirmwareFirst

/-- From where data was stored on, a run goes on as it did once the data is over. -/
theorem Bytes.drop_overwrite {m data : Bytes} {start : Nat}
    (h : start + data.length ≤ m.length) :
    (overwrite m start data).drop start = data ++ m.drop (start + data.length) := by
  have hstart : (m.take start).length = start := List.length_take_of_le (by omega)
  have hdata : data.take (m.length - start) = data := List.take_of_length_le (by omega)
  rw [overwrite, hdata, List.append_assoc, List.drop_left' hstart]

/-- What is left of a length in a word of 64 bits is what such a word keeps of it. -/
theorem ofNat_wrapped (n : Nat) : UInt64.ofNat (wrapped n) = UInt64.ofNat n := by
  apply UInt64.toNat_inj.1
  simp only [UInt64.toNat_ofNat', wrapped]
  omega

/-- A shorter word keeps the same of both. -/
theorem ofNat32_wrapped (n : Nat) : UInt32.ofNat (wrapped n) = UInt32.ofNat n := by
  apply UInt32.toNat_inj.1
  simp only [UInt32.toNat_ofNat', wrapped]
  omega

/-! ## The bytes of a descriptor -/

open Word in
/-- The words of the address of a 64-bit register in memory. -/
def registerWords (address : UInt64) : List Word :=
  [ofUInt8 0, ofUInt8 64, ofUInt8 0, ofUInt8 4, ofUInt64 address]

open Word in
/-- The bytes of the descriptor of an error source: which one it is, the event that the operating
system is notified through, and where its region lies and how it is laid out. -/
def announcement (sourceId : UInt16) (event : UInt32) (base : UInt64) (maxSection : Nat) : Bytes :=
  packed <|
    [ofUInt16 10, ofUInt16 sourceId, ofUInt16 0xffff, ofUInt8 0, ofUInt8 1, ofUInt32 1, ofUInt32 1,
      ofUInt32 (UInt32.ofNat maxSection)] ++
    registerWords (base + 8) ++
    [ofUInt8 11, ofUInt8 28, ofUInt16 0, ofUInt32 0, ofUInt32 event, ofUInt32 0, ofUInt32 0,
      ofUInt32 0, ofUInt32 0, ofUInt32 (UInt32.ofNat (92 + maxSection))] ++
    registerWords base ++
    [ofUInt64 0, ofUInt64 0]

namespace ErrorSource

variable {κ ρ σ : Type} (E : ErrorSource κ ρ σ)

theorem encode_descriptorFor (r : Region) :
    Descriptor.layout.encode (E.descriptorFor r) =
      announcement E.config.sourceId E.config.event r.base r.maxSection := by
  have hack : r.address .ackRegister = r.base := UInt64.add_zero r.base
  have hblock : UInt32.ofNat r.blockLength = UInt32.ofNat (92 + r.maxSection) := by
    rw [Region.blockLength, statusBlockLength_eq, ofNat32_wrapped]
  rw [Descriptor.encode_eq, announcement]
  simp only [Descriptor.words, descriptorFor, hack, hblock]
  rfl

theorem length_encode_descriptorFor (r : Region) :
    (Descriptor.layout.encode (E.descriptorFor r)).length = 92 :=
  Descriptor.layout.length_encode _

/-- What is told of a region when it is prepared is what is told of it before. -/
theorem encode_descriptorFor_prepare (r : Region) :
    Descriptor.layout.encode (E.descriptorFor r.prepare.1) =
      announcement E.config.sourceId E.config.event r.base r.maxSection := by
  rw [encode_descriptorFor, Region.base_prepare, Region.maxSection_prepare]

variable {E} {m : State σ}

/-- The descriptor is there once it was handed out, unless the region is about to be changed. -/
theorem descriptor_eq_ok_iff :
    (∃ d, E.descriptor m = .ok d) ↔ m.region.prepared = true ∧ m.hold ≠ .exclusive := by
  unfold descriptor State.view
  cases hp : m.region.prepared <;> cases m.hold <;> simp [hp]

theorem encode_of_descriptor {d : Descriptor} (h : E.descriptor m = .ok d) :
    Descriptor.layout.encode d =
      announcement E.config.sourceId E.config.event m.region.base m.region.maxSection := by
  unfold descriptor State.view at h
  cases hp : m.region.prepared <;> cases hm : m.hold <;> simp [hp, hm] at h <;>
    rw [← h, encode_descriptorFor]

/-- A caller that gets the descriptors finds them at the start of its buffer, which goes on as it
did. -/
theorem buffer_of_getDescriptors {buffer : Option Bytes} {length count : Option Nat}
    (h : (E.getDescriptors m buffer length count).2.result = some (.ok ())) :
    ∃ b, buffer = some b ∧ 92 ≤ b.length ∧
      (E.getDescriptors m buffer length count).2.buffer =
        some (announcement E.config.sourceId E.config.event m.region.base m.region.maxSection ++
          b.drop 92) := by
  rcases E.getDescriptors_cases m buffer length count with
    ⟨-, -, e, he, -⟩ | ⟨-, -, b, messages, hb, hroom, heq⟩ | ⟨-, -, heq⟩
  · rw [he] at h
    cases h
  · have hlength := E.length_encode_descriptorFor m.region.prepare.1
    have hfit : 0 + (Descriptor.layout.encode (E.descriptorFor m.region.prepare.1)).length ≤
        b.length := by
      rw [hlength, Nat.zero_add]
      exact hroom
    have hfilled := Bytes.drop_overwrite hfit
    rw [List.drop_zero, Nat.zero_add, hlength, encode_descriptorFor_prepare] at hfilled
    refine ⟨b, hb, hroom, ?_⟩
    rw [heq, publication, encode_descriptorFor_prepare, hfilled]
  · rw [heq] at h
    cases h

/-- So does a caller of the interface. -/
theorem buffer_of_callInterface {c : InterfaceCall}
    (h : (E.callInterface m c).2.status = some .success) :
    ∃ b, c.buffer = some (some b) ∧ 92 ≤ b.length ∧
      (E.callInterface m c).2.buffer =
        some (some (announcement E.config.sourceId E.config.event m.region.base
          m.region.maxSection ++ b.drop 92)) := by
  rcases E.callInterface_cases m c with ⟨-, status, hs, hfail⟩ |
    ⟨-, -, b, messages, hb, hroom, -, hanswer⟩ | ⟨-, -, -, hnever⟩
  · rw [hs] at h
    exact (hfail (Option.some.inj h)).elim
  · refine ⟨b, hb, hroom, ?_⟩
    rw [hanswer, overwrite_take_descriptor hroom, encode_descriptorFor_prepare]
    rfl
  · rw [hnever] at h
    cases h

end ErrorSource

/-! ## What is told -/

/-- The step hands out the descriptor `bytes`, if the answer is that it hands out any: a caller's
buffer starts with them and goes on as it did. -/
def Step.HandsOut (s : Step) (bytes : Bytes) : Answer → Prop
  | .descriptors a => a.result = some (.ok ()) → ∃ b length count,
      s = .getDescriptors (some b) length count ∧ 92 ≤ b.length ∧
        a.buffer = some (bytes ++ b.drop 92)
  | .interface a => a.status = some .success → ∃ c b, s = .callInterface c ∧
      c.buffer = some (some b) ∧ 92 ≤ b.length ∧ a.buffer = some (some (bytes ++ b.drop 92))
  | .descriptor d => ∀ descriptor, d = .ok descriptor → Descriptor.layout.encode descriptor = bytes
  | _ => True

/-- The step asks for descriptors. -/
def Step.asks : Step → Bool
  | .getDescriptors _ _ _ => true
  | .callInterface _ => true
  | _ => false

/-! ## The memory of a region that was prepared -/

/-- A region that was prepared just now holds the addresses of its two data zones, the
acknowledgement's first, and zeros. -/
theorem Region.memory_prepare {r : Region} (h : r.prepared = false)
    (hl : 16 ≤ r.memory.length) :
    r.prepare.1.memory =
      packed [.ofUInt64 (r.base + UInt64.ofNat (108 + r.maxSection)), .ofUInt64 (r.base + 16)] ++
        List.replicate (r.memory.length - 16) 0 := by
  have hdata : r.address .statusData = r.base + 16 := rfl
  have hack : r.address .ackData = r.base + UInt64.ofNat (108 + r.maxSection) := by
    rw [address, Zone.offset_ackData, ofNat_wrapped]
  have hlength := length_encode_uint64
  -- The status register is stored first and lies behind the other one.
  have hstatus : (r.memory.cleared.overwrite 8 (Layout.uint64.encode (r.base + 16))).drop 8 =
      Layout.uint64.encode (r.base + 16) ++
        r.memory.cleared.drop (8 + (Layout.uint64.encode (r.base + 16)).length) :=
    Bytes.drop_overwrite (by simp [hlength]; omega)
  have hregisters : ((r.memory.cleared.overwrite 8 (Layout.uint64.encode (r.base + 16))).overwrite 0
      (Layout.uint64.encode (r.base + UInt64.ofNat (108 + r.maxSection)))).drop 0 = _ :=
    Bytes.drop_overwrite (by simp [hlength]; omega)
  have hmemory : r.prepare.1.memory =
      (r.memory.cleared.overwrite 8 (Layout.uint64.encode (r.address .statusData))).overwrite 0
        (Layout.uint64.encode (r.address .ackData)) := by
    rw [prepare_eq h, if_pos hl]
    rfl
  rw [List.drop_zero, hlength, hstatus, hlength] at hregisters
  rw [hmemory, hdata, hack, hregisters]
  simp [Bytes.cleared]

namespace Scenario

open Outcome (placedAll)

variable {σ : Type} {S : Scenario σ} {m₀ m : State σ} {p : Place}

theorem Reachable.base_eq (h : S.Reachable m₀ p m) : m.region.base = m₀.region.base := by
  induction h with
  | start => rfl
  | @step p m h s ih => rw [(S.step_stretch s m).base_eq S.capture_discreet, ih]
  | core h c ih => exact ih
  | platform h platform ih => exact ih
  | reading h hshare ih => exact ih
  | capturing h haccept ih => exact ih

/-- All that a step hands out is the descriptor of the region at its place. -/
theorem step_handsOut (S : Scenario σ) (s : Step) (m : State σ) :
    s.HandsOut (announcement S.source.config.sourceId S.source.config.event m.region.base
      m.region.maxSection) (S.step s m).2.answer := by
  simp only [step, Outcome.answer]
  cases s with
  | getDescriptors buffer length count =>
    intro h
    obtain ⟨b, rfl, hroom, hbuffer⟩ := ErrorSource.buffer_of_getDescriptors h
    exact ⟨b, length, count, rfl, hroom, hbuffer⟩
  | descriptor => exact fun d => ErrorSource.encode_of_descriptor
  | callInterface c =>
    rw [stepWith]
    split
    · intro h
      obtain ⟨b, hb, hroom, hbuffer⟩ := ErrorSource.buffer_of_callInterface h
      exact ⟨c, b, rfl, hb, hroom, hbuffer⟩
    · trivial
  | dispatch buffer size =>
    rw [stepWith]
    split <;> trivial
  | withRegion inside =>
    rw [stepWith]
    split <;> trivial
  | _ => trivial

/-! ## The region when descriptors are asked for -/

/-- Nobody gets descriptors without asking for them. -/
theorem asks_of_publishes {s : Step} (h : (S.step s m).2.publishes = true) : s.asks = true := by
  cases s with
  | getDescriptors buffer length count => rfl
  | callInterface c => rfl
  | dispatch buffer size =>
    simp only [step, stepWith] at h
    split at h <;> cases h
  | withRegion inside =>
    simp only [step, stepWith] at h
    split at h <;> cases h
  | _ => cases h

/-- Whoever asks in vain leaves the region as it is, and whoever gets descriptors has it prepared.
Where it cannot be prepared, the call never returns. -/
theorem step_region_of_asks (S : Scenario σ) {s : Step} (hs : s.asks = true) (m : State σ) :
    ((S.step s m).1.region = m.region ∧ (S.step s m).2.publishes = false) ∨
    ((S.step s m).1.region = m.region.prepare.1 ∧ (S.step s m).2.publishes = true ∧
      m.region.prepare.2.isSome = true) ∨
    ((S.step s m).1.region = m.region.prepare.1 ∧ (S.step s m).2.publishes = false ∧
      m.region.prepare.2 = none) := by
  have hsingle : s.isSingle = true := by
    cases s <;> first | rfl | cases hs
  have hevent : s.event? = none := by
    cases s <;> first | rfl | cases hs
  rcases heq : S.stepWith S.capture s m with ⟨m', a, inside⟩
  simp only [step, heq]
  cases effect_of_eq hsingle heq with
  | idle messages hne hr ha => exact .inl ⟨rfl, Outcome.publishes_of_fruitless ha⟩
  | published messages hfree hready hne hr hp => exact .inr (.inl ⟨rfl, hp _, hready⟩)
  | stuck hfree hstuck hne hr ha =>
    exact .inr (.inr ⟨rfl, Outcome.publishes_of_stuck ha, hstuck⟩)
  | handled messages he =>
    rw [hevent] at he
    cases he
  | outside e => cases hs

/-- **Asking again changes nothing.** However often descriptors are asked for, a prepared region
stays as it is. -/
theorem run_region_of_asks (S : Scenario σ) {asking : List Step}
    (hs : ∀ s ∈ asking, s.asks = true) {m : State σ} (hm : m.region.prepared = true) :
    (S.run asking m).1.region = m.region := by
  induction asking generalizing m with
  | nil => rw [run, stepsWith]
  | cons s rest ih =>
    rw [List.forall_mem_cons] at hs
    have hstep : (S.step s m).1.region = m.region := by
      rcases S.step_region_of_asks hs.1 m with ⟨h, -⟩ | ⟨h, -⟩ | ⟨h, -⟩
      · exact h
      · rw [h, Region.prepare_of_prepared hm]
      · rw [h, Region.prepare_of_prepared hm]
    rw [run_cons, ih hs.2 (by rwa [hstep]), hstep]

/-! ## All that is told in a run -/

/-- What a caller can rely on who asks for descriptors at the place `p` of a run that started in
the state `m₀`, and finds the source in the state `m`. -/
structure Announces (S : Scenario σ) (m₀ : State σ) (p : Place) (m : State σ) : Prop where
  /-- The region is prepared once descriptors were handed out. -/
  prepared : m.region.prepared = (m₀.region.prepared || p.published)
  /-- They are handed out to whoever asks for them while nobody uses the region, if its memory has
  room for the registers. -/
  available : p.inUse = false → 16 ≤ m₀.region.memory.length → ∀ b length count, 92 ≤ b.length →
    (S.source.getDescriptors m (some b) (some length) (some count)).2.result = some (.ok ())
  descriptor : (∃ d, S.source.descriptor m = .ok d) ↔
    m.region.prepared = true ∧ m.hold ≠ .exclusive
  /-- Once the region is prepared, no call that asks for them changes a byte of it. -/
  again : m.region.prepared = true → ∀ asking, (∀ s ∈ asking, s.asks = true) →
    (S.run asking m).1.region = m.region
  /-- When they are handed out for the first time, all of the memory is cleared but for the
  registers, which are pointed at their data. -/
  first : m.region.prepared = false → ∀ s, (S.step s m).2.publishes = true →
    (S.step s m).1.region.memory =
      packed [.ofUInt64 (m₀.region.base + UInt64.ofNat (108 + m₀.region.maxSection)),
        .ofUInt64 (m₀.region.base + 16)] ++ List.replicate (m.region.memory.length - 16) 0

theorem Reachable.announces (hstart : S.source.Starts m₀) (h : S.Reachable m₀ p m) :
    S.Announces m₀ p m := by
  obtain ⟨-, hfree, hidle⟩ := hstart.idle
  have hsound := h.sound hfree hidle
  refine ⟨hsound.prepared, ?_, ErrorSource.descriptor_eq_ok_iff, ?_, ?_⟩
  · intro hp hregisters b length count hroom
    have hgiven : ∀ given, some b = some given → descriptorsLength ≤ given.length := by
      rintro given ⟨⟩
      exact hroom
    have hnobody := hsound.free hp
    have hasked := S.source.getDescriptors_asked m (some length) (some count) hgiven
    generalize (S.source.getDescriptors m (some b) (some length) (some count)).2.result = result
      at hasked
    cases hasked with
    | missing h => simp at h
    | probe hl hc hb => cases hb
    | inUse hl hc hb hm => exact (hm hnobody).elim
    | done => rfl
    | never hl hc hb hm hstuck =>
      rw [hsound.length] at hstuck
      exact (hstuck (.inr hregisters)).elim
  · intro hm asking hs
    exact S.run_region_of_asks hs hm
  · intro hm s hs
    rcases S.step_region_of_asks (asks_of_publishes hs) m with ⟨-, hno⟩ | ⟨hregion, -, hready⟩ |
      ⟨-, hno, -⟩
    · rw [hs] at hno
      cases hno
    · have hregisters : 16 ≤ m.region.memory.length := by
        simpa [hm] using Region.prepare_returns_iff.1 hready
      rw [hregion, Region.memory_prepare hm hregisters, h.base_eq, hsound.maxSection]
    · rw [hs] at hno
      cases hno

/-- **All descriptors are the same.** In every run of a new error source, whatever happens in it and
however deep it is nested, all that is ever handed out are the same 92 bytes, which depend on
nothing but the source's identifier and event and on where its region lies and how it is laid out;
what a caller's buffer has beyond them stays. Asking for them a second time and more often changes
no byte of the region, so that reports and acknowledgements stay; the first time leaves nothing in
the memory of what it held. -/
theorem descriptors_agree (hstart : S.source.Starts m₀) (steps : List Step) :
    (announcement S.source.config.sourceId S.source.config.event m₀.region.base
      m₀.region.maxSection).length = 92 ∧
    (∀ o ∈ placedAll .top (S.run steps m₀).2, S.Arises m₀ o ∧
      o.2.step.HandsOut (announcement S.source.config.sourceId S.source.config.event
        m₀.region.base m₀.region.maxSection) o.2.answer) ∧
    ∀ p m, S.Reachable m₀ p m → S.Announces m₀ p m := by
  refine ⟨?_, fun o ho => ?_, fun p m h => h.announces hstart⟩
  · rw [← S.source.encode_descriptorFor, S.source.length_encode_descriptorFor]
  · have harises := S.run_arises m₀ steps o ho
    obtain ⟨m, h, hanswer⟩ := harises
    obtain ⟨-, hfree, hidle⟩ := hstart.idle
    refine ⟨⟨m, h, hanswer⟩, ?_⟩
    rw [hanswer, ← h.base_eq, ← (h.sound hfree hidle).maxSection]
    exact S.step_handsOut _ m

/-- The calls of the sample run hand out one descriptor, memory that was not blank is cleared, and
asking twice more after an event and an acknowledgement leaves both. -/
theorem descriptors_agree_sample :
    Sample.scenario.source.Starts Sample.start ∧
    (∀ o ∈ placedAll .top (Sample.scenario.run Sample.steps Sample.start).2,
      o.2.step.HandsOut (announcement 7 0x80 0x1000 4) o.2.answer) ∧
    (Sample.scenario.step (.getDescriptors (some (List.replicate 92 0)) (some 92) (some 1))
      Sample.start).1.region.memory =
        packed [.ofUInt64 0x1070, .ofUInt64 0x1010] ++ List.replicate 112 0 ∧
    (Sample.scenario.run [.getDescriptors (some (List.replicate 93 7)) (some 0) (some 0),
        .callInterface ⟨false, some (some (List.replicate 92 0)), some 0, some 0⟩]
      (Sample.scenario.run Sample.steps Sample.start).1).1.region =
        (Sample.scenario.run Sample.steps Sample.start).1.region := by
  have hstart : Sample.scenario.source.Starts Sample.start :=
    ⟨Sample.platform, .inl ⟨Sample.region, rfl⟩⟩
  have hprepared : (Sample.scenario.run Sample.steps Sample.start).1.region.prepared = true := by
    decide +kernel
  obtain ⟨-, hout, hrely⟩ := descriptors_agree hstart Sample.steps
  refine ⟨hstart, fun o ho => (hout o ho).2, ?_, ?_⟩
  · have hfirst := (hrely _ _ .start).first rfl
      (.getDescriptors (some (List.replicate 92 0)) (some 92) (some 1)) (by decide +kernel)
    have hlength : Sample.start.region.memory.length = 128 := List.length_replicate
    rw [hlength] at hfirst
    exact hfirst
  · exact (hrely _ _ (Reachable.start.run Sample.steps)).again hprepared _ (by decide)

end Scenario
end FirmwareFirst
