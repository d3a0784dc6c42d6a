import Mathlib.Data.List.TakeWhile
import FirmwareFirst.Proofs.Stretch
import FirmwareFirst.Source.Playback

/-!
# What a run makes of the shared memory

`Region.Tracks` says what a region is like after a trace: untouched until the descriptors are handed
out, and from then on with both registers in place, the acknowledgement as the operating system last
wrote it, and zeros behind it. Every piece of a run keeps this up, whatever the event source does,
as long as the operating system writes nothing but its acknowledgement.
-/

namespace FirmwareFirst

open Outcome (traces)

/-! ## Confined writes -/

/-- A write from outside keeps to the acknowledgement of a region laid out for sections of
`maxSection` bytes. -/
def Outside.Confined (maxSection : Nat) : Outside → Prop
  | .writeMemory offset data =>
    Zone.ackData.offset maxSection ≤ offset ∧
      offset + data.length ≤ Zone.ackData.offset maxSection + Zone.ackData.length maxSection
  | .setRegisters _ => True
  | .raiseBits _ _ => True
  | .writeDevice _ _ => True

instance (maxSection : Nat) (e : Outside) : Decidable (e.Confined maxSection) :=
  match e with
  | .writeMemory _ _ => inferInstanceAs (Decidable (_ ∧ _))
  | .setRegisters _ => isTrue trivial
  | .raiseBits _ _ => isTrue trivial
  | .writeDevice _ _ => isTrue trivial

theorem Addressable.confined_writeMemory_iff {maxSection offset : Nat} {data : Bytes}
    (h : Addressable maxSection) : (Outside.writeMemory offset data).Confined maxSection ↔
      108 + maxSection ≤ offset ∧ offset + data.length ≤ 116 + maxSection := by
  have hl : Zone.ackData.length maxSection = 8 := rfl
  rw [Outside.Confined, h.offset_ackData, hl]
  omega

/-- All writes from outside keep to the acknowledgement. -/
def Confined (maxSection : Nat) (t : List Outcome) : Prop :=
  ∀ e ∈ t.filterMap Outcome.outside?, e.Confined maxSection

instance (maxSection : Nat) (t : List Outcome) : Decidable (Confined maxSection t) :=
  inferInstanceAs (Decidable (∀ e ∈ _, _))

theorem confined_append {maxSection : Nat} {s t : List Outcome} :
    Confined maxSection (s ++ t) ↔ Confined maxSection s ∧ Confined maxSection t := by
  simp only [Confined, List.filterMap_append, List.mem_append]
  exact ⟨fun h => ⟨fun e he => h e (.inl he), fun e he => h e (.inr he)⟩,
    fun h e he => he.elim (h.1 e) (h.2 e)⟩

/-! ## The acknowledgement -/

/-- The byte that the operating system last wrote at an offset since the descriptors were handed out
for the first time, or zero if it wrote none. -/
def acknowledged (i : Nat) (t : List Outcome) : UInt8 :=
  (((t.dropWhile fun o => !o.publishes).filterMap (Outcome.writtenAt? i)).getLast?).getD 0

theorem writtenAt?_of_call {o : Outcome} (h : o.outside? = none) (i : Nat) :
    o.writtenAt? i = none := by
  obtain ⟨s, a, inside, after⟩ := o
  cases s <;> first | rfl | cases h

theorem dropWhile_of_published {t : List Outcome} (ht : t.any Outcome.publishes = true)
    (s : List Outcome) :
    (t ++ s).dropWhile (fun o => !o.publishes) = t.dropWhile (fun o => !o.publishes) ++ s := by
  rw [List.dropWhile_append, if_neg]
  intro h
  rw [List.isEmpty_iff, List.dropWhile_eq_nil_iff] at h
  obtain ⟨o, ho, hp⟩ := List.any_eq_true.1 ht
  have hn := h o ho
  simp [hp] at hn

/-- One more outcome counts if it writes the byte. -/
theorem acknowledged_snoc {t : List Outcome} (ht : t.any Outcome.publishes = true) (i : Nat)
    (o : Outcome) : acknowledged i (t ++ [o]) = (o.writtenAt? i).getD (acknowledged i t) := by
  unfold acknowledged
  rw [dropWhile_of_published ht, List.filterMap_append]
  cases hw : o.writtenAt? i with
  | none => simp [hw]
  | some b => simp [hw]

/-- The acknowledgement starts at zero. -/
theorem acknowledged_of_first {t : List Outcome} (ht : t.any Outcome.publishes = false) (i : Nat)
    {o : Outcome} (ho : o.outside? = none) : acknowledged i (t ++ [o]) = 0 := by
  have hd : t.dropWhile (fun o => !o.publishes) = [] := by
    rw [List.dropWhile_eq_nil_iff]
    intro p hp
    simpa using List.any_eq_false.1 ht p hp
  unfold acknowledged
  rw [List.dropWhile_append, hd]
  simp only [List.isEmpty_nil, if_true]
  cases hp : o.publishes with
  | false => simp [hp]
  | true => simp [hp, writtenAt?_of_call ho]

/-! ## What is kept up -/

/-- The region `r` is what the trace `t` makes of the region `r₀`, whose zones lie one behind the
other. -/
structure Region.Tracks (r₀ : Region) (t : List Outcome) (r : Region) : Prop where
  addressable : Addressable r₀.maxSection
  base : r.base = r₀.base
  maxSection : r.maxSection = r₀.maxSection
  length : r.memory.length = r₀.memory.length
  prepared : r.prepared = t.any Outcome.publishes
  untouched : r.prepared = false → ∀ i, ¬ Zone.ackData.Covers r₀.maxSection i →
    r.memory[i]? = r₀.memory[i]?
  registers : r.prepared = true → r.number .statusRegister = r₀.address .statusData ∧
    r.number .ackRegister = r₀.address .ackData
  ack : r.prepared = true → ∀ i, Zone.ackData.Covers r₀.maxSection i →
    r.memory[i]? = some (acknowledged i t)
  rest : r.prepared = true → ∀ i, 116 + r₀.maxSection ≤ i → i < r₀.memory.length →
    r.memory[i]? = some 0

namespace Region.Tracks

variable {r₀ r : Region} {t : List Outcome}

theorem length_memory (ht : Tracks r₀ t r) : 116 + r₀.maxSection ≤ r.memory.length := by
  rw [ht.length]
  exact r₀.length_memory ht.addressable

theorem start (hlayout : Addressable r.maxSection) (h : r.prepared = false) : Tracks r [] r := by
  refine ⟨hlayout, rfl, rfl, rfl, h, fun _ _ _ => rfl, ?_, ?_, ?_⟩ <;>
    · intro hp
      rw [h] at hp
      cases hp

/-- An outcome that tells of no change. -/
theorem call (ht : Tracks r₀ t r) {o : Outcome} (ho : o.outside? = none)
    (hp : r.prepared = true ∨ o.publishes = false) : Tracks r₀ (t ++ [o]) r := by
  refine ⟨ht.addressable, ht.base, ht.maxSection, ht.length, ?_, ht.untouched, ht.registers, ?_,
    ht.rest⟩
  · rw [List.any_append, ← ht.prepared]
    rcases hp with hp | hp <;> simp [hp]
  · intro hr i hi
    rw [acknowledged_snoc (by rw [← ht.prepared, hr]), writtenAt?_of_call ho]
    exact ht.ack hr i hi

/-- The region can be prepared. -/
theorem prepare_returns (ht : Tracks r₀ t r) : r.prepare.2.isSome = true := by
  have hl := ht.length_memory
  exact prepare_returns_iff.2 (.inr (by omega))

/-- The descriptors are handed out. -/
theorem prepare (ht : Tracks r₀ t r) {o : Outcome} (ho : o.outside? = none)
    (hp : o.publishes = true) : Tracks r₀ (t ++ [o]) r.prepare.1 := by
  cases hr : r.prepared with
  | true =>
    rw [prepare_of_prepared hr]
    exact ht.call ho (.inl hr)
  | false =>
    have ha : t.any Outcome.publishes = false := by rw [← ht.prepared, hr]
    have hl := ht.length_memory
    have hready := prepared_prepare ht.prepare_returns
    refine ⟨ht.addressable, by rw [base_prepare, ht.base],
      by rw [maxSection_prepare, ht.maxSection], by rw [length_memory_prepare, ht.length], ?_, ?_,
      ?_, ?_, ?_⟩
    · simp [hp, hready]
    · intro h
      rw [hready] at h
      cases h
    · intro _
      have hn := number_prepare hr (by omega)
      simp only [address, ht.base, ht.maxSection] at hn
      exact hn
    · intro _ i hi
      obtain ⟨h1, h2⟩ := ht.addressable.covers_ackData_iff.1 hi
      rw [acknowledged_of_first ha i ho]
      exact getElem?_prepare hr (by omega) (by omega)
    · intro _ i h1 h2
      exact getElem?_prepare hr (by omega) (by rw [ht.length]; exact h2)

/-- A report is written. -/
theorem write (ht : Tracks r₀ t r) {r' : Region} {sectionType : Guid} {report : Report Bytes}
    (hw : r.write sectionType report = some (.ok r')) : Tracks r₀ t r' := by
  obtain ⟨hp, hm, hroom, rfl⟩ := write_eq_ok_iff.1 hw
  have hb := length_blockOf sectionType report
  have hfit : 16 + (blockOf sectionType report).length ≤ r.memory.length := by omega
  have hmax := ht.maxSection
  refine ⟨ht.addressable, ht.base, ht.maxSection, (Bytes.length_overwrite _ _ _).trans ht.length,
    ht.prepared, ?_, ?_, ?_, ?_⟩
  · intro h
    rw [prepared_store, hp] at h
    cases h
  · intro _
    obtain ⟨hs, ha⟩ := ht.registers hp
    refine ⟨(number_store r hfit ?_).trans hs, (number_store r hfit ?_).trans ha⟩
    · simp [Zone.offset, Zone.length_eq]
    · simp [Zone.offset, Zone.length_eq]
  · intro _ i hi
    have h1 := (ht.addressable.covers_ackData_iff.1 hi).1
    rw [getElem?_store r hfit, if_neg (by omega)]
    exact ht.ack hp i hi
  · intro _ i h1 h2
    rw [getElem?_store r hfit, if_neg (by omega)]
    exact ht.rest hp i h1 h2

/-- Something happens outside of the error source. -/
theorem outside (ht : Tracks r₀ t r) {o : Outcome} {e : Outside} (ho : o.outside? = some e)
    (hc : e.Confined r₀.maxSection) (hp : r.prepared = true ∨ o.publishes = false) :
    Tracks r₀ (t ++ [o]) (r.outside e) := by
  obtain ⟨s, a, inside, after⟩ := o
  cases s <;> cases ho
  have hany : r.prepared = (t ++ [Outcome.mk (.outside e) a inside after]).any
      Outcome.publishes := by
    rw [List.any_append, ← ht.prepared]
    rcases hp with hp | hp <;> simp [hp]
  cases e with
  | writeMemory offset data =>
    have hl := ht.length_memory
    obtain ⟨hlow, hhigh⟩ := ht.addressable.confined_writeMemory_iff.1 hc
    have hfit : offset + data.length ≤ r.memory.length := by omega
    have hmax := ht.maxSection
    refine ⟨ht.addressable, ht.base, ht.maxSection, (Bytes.length_overwrite _ _ _).trans ht.length,
      hany, ?_, ?_, ?_, ?_⟩
    · intro h i hi
      rw [ht.addressable.covers_ackData_iff] at hi
      refine (getElem?_store r hfit i).trans ?_
      rw [if_neg (by omega)]
      exact ht.untouched h i (by rwa [ht.addressable.covers_ackData_iff])
    · intro h
      obtain ⟨hs, ha⟩ := ht.registers h
      refine ⟨(number_store r hfit (.inl ?_)).trans hs, (number_store r hfit (.inl ?_)).trans ha⟩
      · simp [Zone.offset, Zone.length_eq]
        omega
      · simp [Zone.offset, Zone.length_eq]
        omega
    · intro h i hi
      have hr : t.any Outcome.publishes = true := by rw [← ht.prepared]; exact h
      refine (getElem?_store r hfit i).trans ?_
      rw [acknowledged_snoc hr, Outcome.writtenAt?]
      by_cases h1 : offset ≤ i
      · by_cases h2 : i < offset + data.length
        · rw [if_pos ⟨h1, h2⟩, if_pos h1, List.getElem?_eq_getElem (by omega), Option.getD_some]
        · have hnone : data[i - offset]? = none := List.getElem?_eq_none (by omega)
          rw [if_neg (by omega), if_pos h1, hnone, Option.getD_none]
          exact ht.ack h i hi
      · rw [if_neg (by omega), if_neg h1, Option.getD_none]
        exact ht.ack h i hi
    · intro h i h1 h2
      refine (getElem?_store r hfit i).trans ?_
      rw [if_neg (by omega)]
      exact ht.rest h i h1 h2
  | _ =>
    refine ⟨ht.addressable, ht.base, ht.maxSection, ht.length, hany, ht.untouched, ht.registers,
      fun h i hi => ?_, ht.rest⟩
    rw [acknowledged_snoc (by rw [← ht.prepared]; exact h)]
    exact ht.ack h i hi

/-- All that happens outside of the error source while the region is in use. -/
theorem outsideAll (ht : Tracks r₀ t r) (hr : r.prepared = true) {s : List Outcome}
    (hc : FirmwareFirst.Confined r₀.maxSection s) : Tracks r₀ (t ++ s) (r.outsideAll s) := by
  induction s generalizing t r with
  | nil =>
    rw [List.append_nil]
    exact ht
  | cons o s ih =>
    obtain ⟨ho, hs⟩ := confined_append.1 (show FirmwareFirst.Confined _ ([o] ++ s) from hc)
    have hcons : t ++ o :: s = (t ++ [o]) ++ s := by simp
    rw [hcons, show o :: s = [o] ++ s from rfl, Region.outsideAll_append]
    cases he : o.outside? with
    | none =>
      rw [Region.outsideAll_of_call _ he]
      exact ih (ht.call he (.inl hr)) hr hs
    | some e =>
      have hone : r.outsideAll [o] = r.outside e := by simp [Region.outsideAll, he]
      have hprep : (r.outside e).prepared = true := by rw [Region.prepared_outside, hr]
      rw [hone]
      exact ih (ht.outside he (ho e (by simp [he])) (.inl hr)) hprep hs

end Region.Tracks

/-! ## Runs -/

namespace Scenario

variable {σ : Type} {S : Scenario σ} {capture : Capturing σ} {r₀ : Region}

/-- A step that holds no other steps keeps the region tracked, if captures leave it to what happens
outside. -/
theorem tracks_single {m m' : State σ} {t : List Outcome} {s : Step} {a : Answer}
    {inside : List Outcome}
    (hcapture : Discreet S capture) (hs : s.isSingle = true)
    (heq : S.stepWith capture s m = (m', a, inside))
    (hc : Confined r₀.maxSection (traces inside ++ [.mk s a inside m'.view]))
    (ht : r₀.Tracks t m.region) :
    r₀.Tracks (t ++ (traces inside ++ [.mk s a inside m'.view])) m'.region := by
  obtain ⟨hinside, hlast⟩ := confined_append.1 hc
  cases effect_of_eq hs heq with
  | idle messages hne hr ha =>
    exact ht.call (Outcome.outside?_of_ne hne) (.inr (Outcome.publishes_of_fruitless ha))
  | published messages hfree hready hne hr hp hd =>
    exact ht.prepare (Outcome.outside?_of_ne hne) (hp _)
  | stuck hfree hstuck =>
    have hready := ht.prepare_returns
    rw [hstuck] at hready
    cases hready
  | @handled _ _ buffer size event captured _ outcome _ _ messages he haccept hcap hr hpub ha =>
    obtain ⟨-, hprep, -⟩ := S.source.of_accept haccept
    have hcaptured : r₀.Tracks (t ++ traces inside) captured.region := by
      rw [hcapture.region_eq hcap]
      exact ht.outsideAll hprep hinside
    have hcprep := hcapture.prepared haccept hcap
    have hne : ∀ e, s ≠ .outside e := by
      rintro e rfl
      cases he
    rw [← List.append_assoc, State.region_say, State.region_settle]
    rcases S.source.publish_cases hpub with ⟨hm, -⟩ | ⟨report, r, -, hw, hm, -⟩ |
      ⟨report, -, hw, -⟩
    · rw [hm]
      exact hcaptured.call (Outcome.outside?_of_ne hne) (.inl hcprep)
    · have hrprep : r.prepared = true := by
        obtain ⟨-, -, -, rfl⟩ := Region.write_eq_ok_iff.1 hw
        exact hcprep
      rw [hm]
      exact (hcaptured.write hw).call (Outcome.outside?_of_ne hne) (.inl hrprep)
    · have hlayout : Addressable captured.region.maxSection := by
        rw [hcaptured.maxSection]
        exact hcaptured.addressable
      exact (Region.write_ne_none hlayout _ _ hw).elim
  | outside e hm =>
    rw [hm, State.region_outside]
    exact ht.outside rfl (hlast e (by simp [Outcome.outside?])) (.inr rfl)

/-- Every stretch keeps the region tracked. -/
theorem Stretch.tracks {m n : State σ} {t s : List Outcome}
    (hcapture : Discreet S capture) (h : S.Stretch capture m s n)
    (hc : Confined r₀.maxSection s) (ht : r₀.Tracks t m.region) :
    r₀.Tracks (t ++ s) n.region := by
  induction h generalizing t with
  | stay =>
    rw [List.append_nil]
    exact ht
  | join first rest ihf ihr =>
    obtain ⟨hf, hr⟩ := confined_append.1 hc
    rw [← List.append_assoc]
    exact ihr hr (ihf hf ht)
  | say =>
    rw [List.append_nil]
    exact ht
  | core =>
    rw [List.append_nil]
    exact ht
  | single hs heq => exact tracks_single hcapture hs heq hc ht
  | region hshare happen hn ih =>
    subst hn
    rw [← List.append_assoc]
    exact (ih (confined_append.1 hc).1 ht).call rfl (.inr rfl)
  | refused => exact ht.call rfl (.inr rfl)
  | installed => exact ht.call rfl (.inr rfl)

/-- What is seen of the region behind the last outcome is the region. -/
theorem tracks_last {n : State σ} {t p u : List Outcome} {o : Outcome} {s : Step} {a : Answer}
    {inside : List Outcome} {r : Region}
    (ht : r₀.Tracks (t ++ (u ++ [.mk s a inside n.view])) n.region)
    (hp : p ++ [o] = u ++ [.mk s a inside n.view]) (hr : o.after = .ok r) :
    r₀.Tracks (t ++ (p ++ [o])) r := by
  have ho : o = .mk s a inside n.view := by simpa using (List.append_inj' hp rfl).2
  rw [ho] at hr
  rw [hp, State.eq_region_of_view hr]
  exact ht

/-- **The region is tracked wherever it can be seen**, be it between steps that happen inside of
other steps. -/
theorem Stretch.tracks_seen {m n : State σ} {t s : List Outcome}
    (hcapture : Discreet S capture) (h : S.Stretch capture m s n)
    (hc : Confined r₀.maxSection s) (ht : r₀.Tracks t m.region)
    {p : List Outcome} {o : Outcome} (hp : p ++ [o] <+: s) {r : Region} (hr : o.after = .ok r) :
    r₀.Tracks (t ++ (p ++ [o])) r := by
  have hone : ∀ (p : List Outcome) (last : Outcome),
      p ++ [o] <+: [last] ↔ p ++ [o] = [] ++ [last] := by
    intro p last
    rw [← List.nil_append [last], List.prefix_concat_iff]
    simp
  induction h generalizing t p with
  | stay => simp at hp
  | join first rest ihf ihr =>
    obtain ⟨hf, hrest⟩ := confined_append.1 hc
    rcases Outcome.concat_prefix_append hp with hq | ⟨q, rfl, hq⟩
    · exact ihf hf ht hq
    · have h := ihr hrest (first.tracks hcapture hf ht) hq
      simpa only [List.append_assoc] using h
  | say => simp at hp
  | core => simp at hp
  | @single m m' s a inside hs heq =>
    rcases List.prefix_concat_iff.1 hp with hp | hp
    · exact tracks_last (tracks_single hcapture hs heq hc ht) hp hr
    · -- Inside of a single step there is nothing but a capture, which hides the region.
      have hhidden : o.after = .error .reentrant := by
        have ho : o ∈ traces inside := hp.subset (by simp)
        cases effect_of_eq hs heq with
        | @handled _ _ _ _ event _ _ _ _ _ messages he haccept hcap _ hpub ha =>
          exact ((hcapture.kept hcap).calm o ho).hidden rfl
        | _ => simp at ho
      rw [hhidden] at hr
      cases hr
  | region hshare happen hn ih =>
    rcases List.prefix_concat_iff.1 hp with hp | hp
    · exact tracks_last ((Stretch.region hshare happen hn).tracks hcapture hc ht) hp hr
    · exact ih (confined_append.1 hc).1 ht hp
  | refused =>
    exact tracks_last (ht.call rfl (.inr rfl)) ((hone _ _).1 hp) hr
  | installed =>
    exact tracks_last (ht.call rfl (.inr rfl)) ((hone _ _).1 hp) hr

/-! ## What a run shows -/

/-- A region that a run shows, and what happened before: the one it ends with, or one that can be
seen when a step is over, be it inside of another one. -/
inductive Shows (S : Scenario σ) (steps : List Step) (m : State σ) : List Outcome → Region → Prop
  | final : Shows S steps m (traces (S.run steps m).2) (S.run steps m).1.region
  | between {t : List Outcome} {o : Outcome} {r : Region}
      (ht : t ++ [o] <+: traces (S.run steps m).2) (hr : o.after = .ok r) :
      Shows S steps m (t ++ [o]) r

theorem Shows.tracks {steps : List Step} {m : State σ} (hlayout : Addressable m.region.maxSection)
    (hnew : m.region.prepared = false)
    (hos : Confined m.region.maxSection (traces (S.run steps m).2)) {t : List Outcome} {r : Region}
    (h : S.Shows steps m t r) : m.region.Tracks t r := by
  have hrun : S.Stretch S.capture m (traces (S.run steps m).2) (S.run steps m).1 :=
    stepsWith_stretch S S.capture m steps
  cases h with
  | final => exact hrun.tracks S.capture_discreet hos (.start hlayout hnew)
  | between ht hr => exact hrun.tracks_seen S.capture_discreet hos (.start hlayout hnew) ht hr

end Scenario

/-! ## A small source -/

namespace Sample

/-- Memory for sections of four bytes that is not blank, with eight bytes to spare. -/
def region : Region :=
  ⟨0x1000, List.replicate 128 0xaa, 4, false, by rw [List.length_replicate]; decide⟩

/-- A source that asks itself for its descriptors while it captures an event of two bytes. -/
def scenario : Scenario Nat where
  source := ⟨⟨7, 0x80, descriptorProtocol, 0x1000, 128⟩,
    playbackSource descriptorProtocol 4 2
      [⟨[.getDescriptors (some (List.replicate 92 0)) (some 92) (some 1)],
        .ok ⟨⟨.corrected, .empty, 0⟩, [1, 2, 3]⟩⟩]⟩
  interrupts _ := []

/-- A platform on which nothing has happened. -/
def platform : Platform :=
  ⟨⟨fun _ => 0, .clearOnes⟩, ⟨0, []⟩, [], [], []⟩

/-- The source at its start. -/
def start : State Nat :=
  ⟨region, .free, 0, false, ⟨false, false⟩, platform⟩

/-- An event comes before the descriptors are handed out and another one afterwards, and the
operating system writes to its acknowledgement in between. -/
def steps : List Step :=
  [.handleEvent (some [8, 9]) (some 2), .outside (.writeMemory 112 [1]),
    .getDescriptors (some (List.replicate 92 0)) (some 92) (some 1),
    .outside (.writeMemory 114 [5, 6]), .handleEvent (some [8, 9]) (some 2)]

end Sample

namespace Sample

end Sample

end FirmwareFirst
