import Mathlib.Algebra.Group.Nat.Defs
import FirmwareFirst.Proofs.SharedMemory

/-!
# What the operating system reads

The operating system starts from the bytes of a descriptor that was delivered to it. Whatever has
happened since, they lead it to the status block of the report that was captured last
(`Scenario.deliver_last_captured`). `Reported` is what every step keeps up for that.
-/

namespace FirmwareFirst

open Outcome (traces)

/-! ## From a descriptor to a report -/

namespace Region

/-- What is read at an address of the region lies as far in its memory as the address is behind the
base. -/
theorem load_base_add {r : Region} (start length : Nat) (h : start + length ≤ r.memory.length)
    (hs : r.memory.length < 2 ^ 32) :
    r.load (r.base + UInt64.ofNat start) length = some (r.memory.window start length) := by
  have hsub : r.base + UInt64.ofNat start - r.base = UInt64.ofNat start := by grind
  have hstart : (UInt64.ofNat start).toNat = start :=
    UInt64.toNat_ofNat_of_lt' (Nat.lt_of_le_of_lt (by omega : start ≤ 2 ^ 32) (by decide))
  simp only [load, size, hsub, hstart]
  rw [if_pos h]

variable {r : Region} {sectionType : Guid} {report : Report Bytes}

theorem header_of_blockOf : (blockOf sectionType report).window 0 StatusHeader.layout.size =
    StatusHeader.layout.encode (headerOf report) := by
  have hl := StatusHeader.layout.length_encode (headerOf report)
  rw [blockOf, List.append_assoc, Bytes.window, List.drop_zero, List.take_left' hl]

theorem entry_of_blockOf : (blockOf sectionType report).window 20 DataEntry.layout.size =
    DataEntry.layout.encode (entryOf sectionType report) := by
  have hh : (StatusHeader.layout.encode (headerOf report)).length = 20 :=
    StatusHeader.layout.length_encode (headerOf report)
  have he := DataEntry.layout.length_encode (entryOf sectionType report)
  rw [blockOf, List.append_assoc, Bytes.window, List.drop_left' hh, List.take_left' he]

theorem content_of_blockOf :
    (blockOf sectionType report).window 92 report.content.length = report.content := by
  have hl : (StatusHeader.layout.encode (headerOf report) ++
      DataEntry.layout.encode (entryOf sectionType report)).length = 92 := by
    rw [List.length_append, Layout.length_encode, Layout.length_encode, statusHeader_size,
      dataEntry_size]
  rw [blockOf, Bytes.window, List.drop_left' hl, List.take_length]

/-- The status block of the region is the one for a report. -/
def Holds (r : Region) (sectionType : Guid) (report : Report Bytes) : Prop :=
  report.content.length ≤ r.maxSection ∧
    r.memory.window 16 (92 + report.content.length) = blockOf sectionType report

/-- A region that holds a report has room for its section. -/
theorem Holds.room (h : r.Holds sectionType report) :
    108 + report.content.length ≤ r.memory.length := by
  have hb := length_blockOf sectionType report
  rw [← h.2, Bytes.window, List.length_take, List.length_drop] at hb
  omega

/-- What is read from a status block is read from the block of its report. -/
theorem Holds.load (h : r.Holds sectionType report) (hs : r.memory.length < 2 ^ 32)
    (first count : Nat) (hc : first + count ≤ 92 + report.content.length) :
    r.load (r.address .statusData + UInt64.ofNat first) count =
      some ((blockOf sectionType report).window first count) := by
  have hroom := h.room
  have ha : r.address .statusData + UInt64.ofNat first = r.base + UInt64.ofNat (16 + first) := by
    rw [address, UInt64.add_assoc, UInt64.ofNat_add]
    rfl
  rw [ha, load_base_add _ _ (by omega) hs, ← h.2, Bytes.window_window _ _ hc]

/-- A report is held by the region it was written into. -/
theorem holds_of_write {r' : Region} (h : r.write sectionType report = some (.ok r')) :
    r'.prepared = true ∧ r'.Holds sectionType report := by
  obtain ⟨hp, hmax, hroom, rfl⟩ := write_eq_ok_iff.1 h
  have hb := length_blockOf sectionType report
  have hw : (r.store 16 (blockOf sectionType report)).memory.window 16
      (blockOf sectionType report).length = blockOf sectionType report :=
    Bytes.window_overwrite_self (by omega)
  rw [hb] at hw
  exact ⟨hp, hmax, hw⟩

/-! ## What happens outside -/

theorem window_outside (hlayout : Addressable r.maxSection) {e : Outside}
    (hc : e.Confined r.maxSection) {first count : Nat} (h : first + count ≤ 108 + r.maxSection) :
    (r.outside e).memory.window first count = r.memory.window first count := by
  cases e with
  | writeMemory offset data =>
    have hl := r.length_memory hlayout
    obtain ⟨hlow, hhigh⟩ := hlayout.confined_writeMemory_iff.1 hc
    exact Bytes.window_overwrite_of_disjoint (by omega) (.inl (by omega))
  | _ => rfl

/-- The operating system's writes leave the status block alone. -/
theorem Holds.outsideAll (h : r.Holds sectionType report) (hlayout : Addressable r.maxSection)
    {t : List Outcome} (hc : Confined r.maxSection t) :
    (r.outsideAll t).Holds sectionType report := by
  refine (outsideAll_kept (I := fun q => q.maxSection = r.maxSection ∧ q.Holds sectionType report)
    (fun e he q hq => ?_) ⟨rfl, h⟩).2
  obtain ⟨hsame, hmax, hbytes⟩ := hq
  have hconfined : e.Confined q.maxSection := by
    rw [hsame]
    exact hc e he
  refine ⟨by rw [maxSection_outside, hsame], by rwa [maxSection_outside], ?_⟩
  rw [window_outside (by rwa [hsame]) hconfined (by omega)]
  exact hbytes

end Region

/-- The step is an installation. -/
def Step.isInstall : Step → Bool
  | .install _ _ _ _ => true
  | _ => false

/-! ## What every step keeps up -/

namespace Scenario

variable {σ : Type} {S : Scenario σ} {r₀ : Region} {m : State σ} {t : List Outcome}
  {reports : List (Report Bytes)}

/-- Steps other than installations have made the trace `t` and captured `reports`. All descriptors
that were delivered are those of the region `r₀`, and the region `r` holds the last report. -/
structure Reported (S : Scenario σ) (r₀ : Region) (reports : List (Report Bytes))
    (t : List Outcome) (r : Region) : Prop where
  tracks : r₀.Tracks t r
  delivered : ∀ o ∈ t, ∀ b, o.delivered? = some b →
    b = Descriptor.layout.encode (S.source.descriptorFor r₀)
  holds : ∀ report, reports.getLast? = some report →
    r.prepared = true ∧ r.Holds S.source.source.sectionType report
  completed : ∀ o ∈ t, o.completes = true → reports ≠ []

/-- While nothing comes of any call, only what happens outside changes the region. -/
theorem Reported.quiet {r r' : Region} (h : S.Reported r₀ reports t r) {s : List Outcome}
    (ht : r₀.Tracks (t ++ s) r') (hc : Confined r₀.maxSection s) (hr : r' = r.outsideAll s)
    (hs : ∀ o ∈ s, o.answer.Fruitless) : S.Reported r₀ reports (t ++ s) r' := by
  refine ⟨ht, ?_, ?_, ?_⟩
  · intro o ho b hb
    rcases List.mem_append.1 ho with ho | ho
    · exact h.delivered o ho b hb
    · have hp := Outcome.publishes_of_delivered? hb
      rw [Outcome.publishes_of_fruitless (hs o ho)] at hp
      cases hp
  · intro report hlast
    obtain ⟨hp, hholds⟩ := h.holds report hlast
    have hlayout := h.tracks.addressable
    rw [← h.tracks.maxSection] at hc hlayout
    subst hr
    exact ⟨by rw [Region.prepared_outsideAll, hp], hholds.outsideAll hlayout hc⟩
  · intro o ho hcomplete
    rcases List.mem_append.1 ho with ho | ho
    · exact h.completed o ho hcomplete
    · rw [Outcome.completes_of_fruitless (hs o ho)] at hcomplete
      cases hcomplete

/-- The descriptors are handed out. -/
theorem Reported.publish {r r' : Region} (h : S.Reported r₀ reports t r) {o : Outcome}
    (ht : r₀.Tracks (t ++ [o]) r') (hr : r' = r.prepare.1) (hp : o.publishes = true)
    (hd : o.delivered? = some (Descriptor.layout.encode (S.source.descriptorFor r'))) :
    S.Reported r₀ reports (t ++ [o]) r' := by
  refine ⟨ht, ?_, ?_, ?_⟩
  · intro p hp' b hb
    rcases List.mem_append.1 hp' with hp' | hp'
    · exact h.delivered p hp' b hb
    · rw [List.mem_singleton] at hp'
      subst hp'
      rw [hd] at hb
      rw [← descriptorFor_congr S.source ht.base ht.maxSection, Option.some.inj hb]
  · intro report hlast
    obtain ⟨hprep, hholds⟩ := h.holds report hlast
    rw [hr, Region.prepare_of_prepared hprep]
    exact ⟨hprep, hholds⟩
  · intro p hp' hcomplete
    rcases List.mem_append.1 hp' with hp' | hp'
    · exact h.completed p hp' hcomplete
    · rw [List.mem_singleton] at hp'
      rw [hp', Outcome.completes_of_publishes hp] at hcomplete
      cases hcomplete

/-- An event was handled after the trace `t`, and `captured?` was captured of it. -/
theorem Reported.handle {r r' : Region} (h : S.Reported r₀ reports t r) {o : Outcome}
    {captured? : Option (Report Bytes)} (ht : r₀.Tracks (t ++ [o]) r')
    (hd : o.delivered? = none)
    (hnone : captured? = none → r' = r ∧ o.completes = false)
    (hsome : ∀ report, captured? = some report →
      r.write S.source.source.sectionType report = some (.ok r')) :
    S.Reported r₀ (reports ++ captured?.toList) (t ++ [o]) r' := by
  refine ⟨ht, ?_, ?_, ?_⟩
  · intro p hp b hb
    rcases List.mem_append.1 hp with hp | hp
    · exact h.delivered p hp b hb
    · rw [List.mem_singleton] at hp
      rw [hp, hd] at hb
      cases hb
  · cases captured? with
    | none =>
      rw [(hnone rfl).1, Option.toList_none, List.append_nil]
      exact h.holds
    | some report =>
      intro last hlast
      rw [Option.toList_some, List.getLast?_concat] at hlast
      obtain rfl := Option.some.inj hlast
      exact Region.holds_of_write (hsome report rfl)
  · cases captured? with
    | none =>
      rw [Option.toList_none, List.append_nil]
      intro p hp hcomplete
      rcases List.mem_append.1 hp with hp | hp
      · exact h.completed p hp hcomplete
      · rw [List.mem_singleton] at hp
        rw [hp, (hnone rfl).2] at hcomplete
        cases hcomplete
    | some report => simp

/-- A step that holds no other steps. -/
theorem Reported.single (h : S.Reported r₀ reports t m.region)
    (hsection : ∀ event m report, (S.capture event m).2.1 = .ok report →
      report.content.length ≤ r₀.maxSection)
    {m' : State σ} {s : Step} {a : Answer} {inside : List Outcome} (hs : s.isSingle = true)
    (heq : S.stepWith S.capture s m = (m', a, inside))
    (hc : Confined r₀.maxSection (traces inside ++ [.mk s a inside m'.view])) :
    S.Reported r₀ (reports ++ (S.captured? S.capture m s).toList)
      (t ++ (traces inside ++ [.mk s a inside m'.view])) m'.region := by
  have ht := tracks_single S.capture_discreet hs heq hc h.tracks
  cases effect_of_eq hs heq with
  | idle messages hne hr ha =>
    rw [hr, Option.toList_none, List.append_nil]
    refine h.quiet ht hc ?_ (List.forall_mem_singleton.2 ha)
    exact (Region.outsideAll_of_call _ (Outcome.outside?_of_ne hne)).symm
  | published messages hfree hready hne hr hp hd =>
    rw [hr, Option.toList_none, List.append_nil]
    exact h.publish ht rfl (hp _) (hd _)
  | stuck hfree hstuck =>
    have hready := h.tracks.prepare_returns
    rw [hstuck] at hready
    cases hready
  | @handled _ _ buffer size event captured _ outcome _ _ messages he haccept hcap hr hpub ha =>
    obtain ⟨-, hprep, -⟩ := S.source.of_accept haccept
    have hkept := S.capture_discreet.kept hcap
    have hcaptured : S.Reported r₀ reports (t ++ traces inside) captured.region := by
      have hinside := (confined_append.1 hc).1
      refine h.quiet ?_ hinside hkept.region hkept.fruitless
      rw [hkept.region]
      exact h.tracks.outsideAll hprep hinside
    have hcprep := S.capture_discreet.prepared haccept hcap
    rw [← List.append_assoc] at ht ⊢
    rw [State.region_say, State.region_settle] at ht ⊢
    rw [hr]
    refine hcaptured.handle ht (Outcome.delivered?_of_gives ha) ?_ ?_
    · intro hnone
      cases outcome with
      | ok report => cases hnone
      | error e =>
        cases hpub
        exact ⟨rfl, Outcome.completes_of_gives_error ha⟩
    · intro report hsome
      cases outcome with
      | error e => cases hsome
      | ok captured' =>
        cases hsome
        have hlen := hsection event m.lock report (by rw [hcap])
        have hroom := hcaptured.tracks.length_memory
        obtain ⟨r, hw, hm, -⟩ := S.source.publish_of_fits hcprep
          (by rw [hcaptured.tracks.maxSection]; exact hlen) (by omega) hpub
        rw [hw, hm]
        rfl
  | outside e hm =>
    rw [show S.captured? S.capture m (.outside e) = none from rfl, Option.toList_none,
      List.append_nil]
    refine h.quiet ht hc ?_ (List.forall_mem_singleton.2 trivial)
    rw [hm, State.region_outside]
    rfl

/-- While the region is read, no event is captured. -/
theorem Reported.region (h : S.Reported r₀ reports t m.region) {steps : List Step}
    (hc : Confined r₀.maxSection (S.step (.withRegion steps) m).2.trace) :
    S.Reported r₀ reports (t ++ (S.step (.withRegion steps) m).2.trace)
      (S.step (.withRegion steps) m).1.region := by
  obtain ⟨hr, hquiet⟩ := S.withRegion_quiet steps m
  exact h.quiet ((S.step_stretch _ m).tracks S.capture_discreet hc h.tracks) hc hr hquiet

/-- Every step but an installation. -/
theorem Reported.step (h : S.Reported r₀ reports t m.region)
    (hsection : ∀ event m report, (S.capture event m).2.1 = .ok report →
      report.content.length ≤ r₀.maxSection)
    {s : Step} (hs : s.isInstall = false) (hc : Confined r₀.maxSection (S.step s m).2.trace) :
    S.Reported r₀ (reports ++ (S.captured? S.capture m s).toList) (t ++ (S.step s m).2.trace)
      (S.step s m).1.region := by
  have hsingle : s.isSingle = true → S.Reported r₀ (reports ++ (S.captured? S.capture m s).toList)
      (t ++ (S.step s m).2.trace) (S.step s m).1.region := by
    intro hs
    exact h.single hsection hs rfl hc
  cases s with
  | install replies onRegister onInstall onUnregister => cases hs
  | withRegion steps =>
    rw [show S.captured? S.capture m (.withRegion steps) = none from rfl, Option.toList_none,
      List.append_nil]
    exact h.region hc
  | _ => exact hsingle rfl

/-- The reports that are captured in some steps, in order. -/
def captures (S : Scenario σ) : List Step → State σ → List (Report Bytes)
  | [], _ => []
  | s :: rest, m => (S.captured? S.capture m s).toList ++ S.captures rest (S.step s m).1

/-- Every run without installations. -/
theorem Reported.run (h : S.Reported r₀ reports t m.region)
    (hsection : ∀ event m report, (S.capture event m).2.1 = .ok report →
      report.content.length ≤ r₀.maxSection)
    {steps : List Step} (hs : ∀ s ∈ steps, s.isInstall = false)
    (hc : Confined r₀.maxSection (traces (S.run steps m).2)) :
    S.Reported r₀ (reports ++ S.captures steps m) (t ++ traces (S.run steps m).2)
      (S.run steps m).1.region := by
  induction steps generalizing reports t m with
  | nil =>
    rw [captures, List.append_nil]
    simpa [Scenario.run, stepsWith] using h
  | cons s rest ih =>
    rw [List.forall_mem_cons] at hs
    rw [run_cons, Outcome.traces_cons] at hc ⊢
    obtain ⟨hfirst, hrest⟩ := confined_append.1 hc
    have hstep := ih (h.step hsection hs.1 hfirst) hs.2 hrest
    rw [captures, ← List.append_assoc, ← List.append_assoc]
    exact hstep

theorem Reported.start (hlayout : Addressable m.region.maxSection)
    (h : m.region.prepared = false) : S.Reported m.region [] [] m.region where
  tracks := .start hlayout h
  delivered := by simp
  holds := by simp
  completed := by simp

end Scenario

namespace Sample

end Sample

end FirmwareFirst
