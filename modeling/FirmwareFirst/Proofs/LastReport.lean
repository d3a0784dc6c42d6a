import FirmwareFirst.Proofs.Conservation
import FirmwareFirst.Proofs.ProcessorEvents

/-!
# The last report is all that is left

Where all sections have the same length, each report fills the same bytes. What a region holds
outside the acknowledgement after a run is therefore settled by its layout and by the report that
was published last (`Region.Presents`): nothing is left of earlier reports, nor of what the memory
held at first. This needs no more than room for one section, and a report is published only where
there is (`Scenario.isHandled_iff`).
-/

namespace FirmwareFirst

open Outcome (traces)

namespace Region

variable {r₀ r₀' r r' : Region} {sectionType : Guid} {report : Report Bytes} {N : Nat}
  {last : Option (Report Bytes)}

/-! ## What preparing leaves of a region -/

/-- Nothing is left of what the memory held. -/
theorem prepare_congr (h : r.prepared = false) (h' : r'.prepared = false)
    (hbase : r'.base = r.base) (hlength : r'.memory.length = r.memory.length)
    (hmax : r'.maxSection = r.maxSection) : r'.prepare = r.prepare := by
  have hclear : r'.clear = r.clear := by
    obtain ⟨base, memory, maxSection, prepared, fits⟩ := r
    obtain ⟨base', memory', maxSection', prepared', fits'⟩ := r'
    simp_all [clear, Bytes.cleared]
  have hpointer : ∀ (r : Region) (register data : Zone),
      r.pointer register data = r.clear.pointer register data := fun _ _ _ => rfl
  rw [prepare, prepare, if_neg (by simp [h']), if_neg (by simp [h]), hpointer r', hpointer r',
    hpointer r, hpointer r, hclear]

/-- Past the registers, not even the base is told. -/
theorem getElem?_prepare_congr (h : r.prepared = false) (h' : r'.prepared = false) {i : Nat}
    (hi : 16 ≤ i) (hlength : i < r'.memory.length ↔ i < r.memory.length) :
    r'.prepare.1.memory[i]? = r.prepare.1.memory[i]? := by
  by_cases hr : i < r.memory.length
  · rw [getElem?_prepare h hi hr, getElem?_prepare h' hi (hlength.2 hr)]
  · have hr' : ¬ i < r'.memory.length := mt hlength.1 hr
    rw [List.getElem?_eq_none (by rw [length_memory_prepare]; omega),
      List.getElem?_eq_none (by rw [length_memory_prepare]; omega)]

/-! ## A region with one report and nothing else -/

/-- The region `r` came of `r₀`, and its status block holds the report that came `last`, if there
was one, with a section of `N` bytes. Around that block it is as `r₀` is once prepared. The
acknowledgement may be anything. -/
structure Presents (r₀ : Region) (sectionType : Guid) (N : Nat) (last : Option (Report Bytes))
    (r : Region) : Prop where
  base : r.base = r₀.base
  length : r.memory.length = r₀.memory.length
  maxSection : r.maxSection = r₀.maxSection
  prepared : last.isSome = true → r.prepared = true
  around : r.prepared = true → ∀ i, ¬ Zone.ackData.Covers r₀.maxSection i →
    ¬ (16 ≤ i ∧ i < 108 + N) → r.memory[i]? = r₀.prepare.1.memory[i]?
  block : ∀ report, last = some report → ∀ i, ¬ Zone.ackData.Covers r₀.maxSection i →
    16 ≤ i ∧ i < 108 + N → r.memory[i]? = (blockOf sectionType report)[i - 16]?

namespace Presents

theorem start (h : r.prepared = false) : r.Presents sectionType N none r := by
  refine ⟨rfl, rfl, rfl, nofun, fun hp => ?_, nofun⟩
  rw [h] at hp
  cases hp

theorem prepare (h : r₀.Presents sectionType N last r) (hnew : r₀.prepared = false) :
    r₀.Presents sectionType N last r.prepare.1 := by
  cases hr : r.prepared with
  | true => rwa [prepare_of_prepared hr]
  | false =>
    have hlast : last = none := by
      cases last with
      | none => rfl
      | some report =>
        have hp := h.prepared rfl
        rw [hr] at hp
        cases hp
    subst hlast
    rw [prepare_congr hnew hr h.base h.length h.maxSection]
    exact ⟨r₀.base_prepare, r₀.length_memory_prepare, r₀.maxSection_prepare, nofun,
      fun _ _ _ _ => rfl, nofun⟩

/-- A report takes the place of the one before it. -/
theorem write (h : r₀.Presents sectionType N last r) (hlength : report.content.length = N)
    (hw : r.write sectionType report = some (.ok r')) :
    r₀.Presents sectionType N (some report) r' := by
  obtain ⟨hp, -, hroom, rfl⟩ := write_eq_ok_iff.1 hw
  have hb := length_blockOf sectionType report
  have hfit : 16 + (blockOf sectionType report).length ≤ r.memory.length := by omega
  refine ⟨h.base, (Bytes.length_overwrite ..).trans h.length, h.maxSection, fun _ => hp, ?_, ?_⟩
  · intro _ i hack hi
    rw [getElem?_store r hfit, if_neg (by omega)]
    exact h.around hp i hack hi
  · intro report' hreport i _ hi
    cases hreport
    rw [getElem?_store r hfit, if_pos (by omega)]

/-- The operating system writes to its acknowledgement. -/
theorem outside (h : r₀.Presents sectionType N last r) {e : Outside}
    (he : e.Confined r₀.maxSection) : r₀.Presents sectionType N last (r.outside e) := by
  cases e with
  | writeMemory offset data =>
    have hkept : ∀ i, ¬ Zone.ackData.Covers r₀.maxSection i →
        (r.outside (.writeMemory offset data)).memory[i]? = r.memory[i]? := by
      intro i hack
      obtain ⟨hlow, hhigh⟩ := he
      rw [Zone.Covers] at hack
      exact Bytes.getElem?_overwrite_of_disjoint (by omega)
    refine ⟨h.base, (Bytes.length_overwrite ..).trans h.length, h.maxSection, h.prepared, ?_, ?_⟩
    · intro hp i hack hi
      rw [hkept i hack]
      exact h.around hp i hack hi
    · intro report hreport i hack hi
      rw [hkept i hack]
      exact h.block report hreport i hack hi
  | _ => exact h

theorem outsideAll (h : r₀.Presents sectionType N last r) {t : List Outcome}
    (hc : Confined r₀.maxSection t) : r₀.Presents sectionType N last (r.outsideAll t) :=
  outsideAll_kept (fun e he _ hr => hr.outside (hc e he)) h

/-- Two regions that present the same report are the same where they are once prepared. -/
theorem getElem?_eq (h : r₀.Presents sectionType N (some report) r)
    (h' : r₀'.Presents sectionType N (some report) r') (hmax : r₀'.maxSection = r₀.maxSection)
    {i : Nat} (hack : ¬ Zone.ackData.Covers r₀.maxSection i)
    (hprepare : r₀'.prepare.1.memory[i]? = r₀.prepare.1.memory[i]?) :
    r'.memory[i]? = r.memory[i]? := by
  have hack' : ¬ Zone.ackData.Covers r₀'.maxSection i := by rwa [hmax]
  by_cases hi : 16 ≤ i ∧ i < 108 + N
  · rw [h.block report rfl i hack hi, h'.block report rfl i hack' hi]
  · rw [h.around (h.prepared rfl) i hack hi, h'.around (h'.prepared rfl) i hack' hi, hprepare]

/-- Where all lengths can be counted, their status blocks are the same, wherever they lie. -/
theorem read_statusData_eq (h : r₀.Presents sectionType N (some report) r)
    (h' : r₀'.Presents sectionType N (some report) r') (hnew : r₀.prepared = false)
    (hnew' : r₀'.prepared = false) (hmax : r₀'.maxSection = r₀.maxSection)
    (hlayout : Addressable r₀.maxSection) : r'.read .statusData = r.read .statusData := by
  have hl := r₀.length_memory hlayout
  have hl' := r₀'.length_memory (by rwa [hmax])
  have hlength : Zone.statusData.length r₀.maxSection = 92 + r₀.maxSection :=
    hlayout.statusBlockLength_eq
  have hoffset : Zone.statusData.offset r₀.maxSection = 16 := rfl
  apply List.ext_getElem?
  intro i
  rw [read, read, Bytes.getElem?_window, Bytes.getElem?_window, h.maxSection, h'.maxSection, hmax,
    hlength, hoffset]
  by_cases hi : i < 92 + r₀.maxSection
  · rw [if_pos hi, if_pos hi]
    refine h.getElem?_eq h' hmax ?_ (getElem?_prepare_congr hnew hnew' (by omega) (by omega))
    rw [hlayout.covers_ackData_iff]
    omega
  · rw [if_neg hi, if_neg hi]

end Presents
end Region

/-! ## Runs -/

/-- The payload of an event that was handled to the end. -/
def Outcome.payload? : Outcome → Option Bytes
  | mk s a _ _ => if a.isHandled then s.event?.bind Prod.fst else none

theorem Outcome.payload?_of_not_handled {o : Outcome} (h : o.answer.isHandled = false) :
    o.payload? = none := by
  obtain ⟨s, a, inside, after⟩ := o
  have ha : a.isHandled = false := h
  rw [payload?, ha, if_neg Bool.false_ne_true]

namespace Scenario

variable {σ : Type} {S : Scenario σ} {N : Nat} {region : Region} {m : State σ} {steps : List Step}
  {report : Report Bytes}

/-- All sections that are captured have `N` bytes, which is no more than the source claims. -/
structure Sections (S : Scenario σ) (N : Nat) : Prop where
  length : ∀ event m report, (S.capture event m).2.1 = .ok report → report.content.length = N
  le : N ≤ S.source.source.maxSection

/-- The run of `steps` from `m` is one of calls to a new source, to whose region the operating
system writes nothing but its acknowledgement. The firmware core may know the source already. -/
structure FreshRun (S : Scenario σ) (region : Region) (steps : List Step) (m : State σ) :
    Prop where
  new : region.prepared = false
  start : ∃ platform core k, S.source.start region platform = .ok k ∧ m = { k with core := core }
  calls : ∀ s ∈ steps, s.isInstall = false
  confined : Confined region.maxSection (traces (S.run steps m).2)

theorem FreshRun.region_eq (h : S.FreshRun region steps m) :
    m.region = region ∧ S.source.source.maxSection ≤ region.maxSection := by
  obtain ⟨platform, core, k, hstart, rfl⟩ := h.start
  obtain ⟨hmax, hregion, -⟩ := ErrorSource.of_start hstart
  exact ⟨hregion, hmax⟩

/-! ### What is published -/

/-- What is captured in a step is the outcome of a capture, which comes of an event. -/
theorem of_captured? {s : Step} (h : S.captured? S.capture m s = some report) :
    s.isSingle = true ∧ ∃ event k, (S.capture event k).2.1 = .ok report := by
  have hreport : ∀ {buffer size}, S.reportOf? S.capture m buffer size = some report →
      ∃ event k, (S.capture event k).2.1 = .ok report := by
    intro buffer size h
    unfold reportOf? at h
    split at h
    · cases h
    · rename_i event _
      refine ⟨event, m.lock, ?_⟩
      cases hc : (S.capture event m.lock).2.1 with
      | error e =>
        rw [hc] at h
        cases h
      | ok captured =>
        rw [hc] at h
        exact congrArg Except.ok (Option.some.inj h)
  cases s with
  | handleEvent buffer size => exact ⟨rfl, hreport h⟩
  | handle buffer size => exact ⟨rfl, hreport h⟩
  | dispatch buffer size =>
    simp only [captured?] at h
    split at h
    · exact ⟨rfl, hreport h⟩
    · cases h
  | _ => cases h

/-- A report that is captured is published if and only if there is room for its section. -/
theorem isHandled_iff {s : Step} (h : S.captured? S.capture m s = some report)
    (hfits : report.content.length ≤ m.region.maxSection) :
    (S.step s m).2.answer.isHandled = true ↔
      108 + report.content.length ≤ m.region.memory.length := by
  rcases heq : S.stepWith S.capture s m with ⟨m', a, inside⟩
  have ha : (S.step s m).2.answer = a := by
    rw [step, heq]
    rfl
  rw [ha]
  cases effect_of_eq (of_captured? h).1 heq with
  | idle messages hne hr =>
    rw [hr] at h
    cases h
  | published messages hfree hready hne hr =>
    rw [hr] at h
    cases h
  | stuck hfree hstuck hne hr =>
    rw [hr] at h
    cases h
  | outside e he => cases h
  | @handled _ _ _ _ event captured _ outcome _ result messages he haccept hcap hr hpub ha =>
    have hcprep := S.capture_discreet.prepared haccept hcap
    have hcfits : report.content.length ≤ captured.region.maxSection := by
      rwa [S.capture_discreet.maxSection_eq hcap]
    obtain rfl : outcome = .ok report := by
      rw [hr] at h
      cases outcome with
      | error e => cases h
      | ok captured' => exact congrArg Except.ok (Option.some.inj h)
    rw [← S.capture_discreet.length_eq hcap]
    by_cases hroom : 108 + report.content.length ≤ captured.region.memory.length
    · obtain ⟨r, -, -, rfl⟩ := S.source.publish_of_fits hcprep hcfits hroom hpub
      exact iff_of_true (Answer.isHandled_of_gives ha) hroom
    · have hnone := S.source.publish_of_short hcprep hcfits (Nat.lt_of_not_le hroom) hpub
      rw [hnone] at ha
      exact iff_of_false (by rw [Answer.isHandled_of_gives_none ha]; exact Bool.false_ne_true) hroom

/-- The report that is captured in a step which handles an event to the end. -/
def published? (S : Scenario σ) (m : State σ) (s : Step) : Option (Report Bytes) :=
  if (S.step s m).2.answer.isHandled then S.captured? S.capture m s else none

/-- The reports of those of some steps that handle an event to the end, in order. -/
def published (S : Scenario σ) : List Step → State σ → List (Report Bytes)
  | [], _ => []
  | s :: rest, m => (S.published? m s).toList ++ S.published rest (S.step s m).1

theorem published?_of_not_handled {s : Step} (h : (S.step s m).2.answer.isHandled = false) :
    S.published? m s = none :=
  if_neg (by rw [h]; exact Bool.false_ne_true)

theorem captured?_of_published? {s : Step} (h : S.published? m s = some report) :
    (S.step s m).2.answer.isHandled = true ∧ S.captured? S.capture m s = some report := by
  unfold published? at h
  split at h
  · exact ⟨‹_›, h⟩
  · cases h

/-- Reports are published only where there is room for a section. -/
theorem room_of_mem_published (hsections : S.Sections N) (hfits : N ≤ m.region.maxSection)
    (h : report ∈ S.published steps m) : 108 + N ≤ m.region.memory.length := by
  induction steps generalizing m with
  | nil => cases h
  | cons s rest ih =>
    rcases List.mem_append.1 h with h | h
    · obtain ⟨hhandled, hcaptured⟩ := captured?_of_published? (Option.mem_toList.1 h)
      obtain ⟨-, event, k, hok⟩ := of_captured? hcaptured
      have hlength := hsections.length event k report hok
      have hroom := (isHandled_iff hcaptured (hlength.trans_le hfits)).1 hhandled
      rwa [hlength] at hroom
    · have hstretch := S.step_stretch s m
      have hrest := ih (by rwa [hstretch.maxSection_eq S.capture_discreet]) h
      rwa [hstretch.length_eq S.capture_discreet] at hrest

/-- Where there is room for a section, all that is captured is published. -/
theorem published_eq_captures (hsections : S.Sections N) (hfits : N ≤ m.region.maxSection)
    (hroom : 108 + N ≤ m.region.memory.length) : S.published steps m = S.captures steps m := by
  induction steps generalizing m with
  | nil => rfl
  | cons s rest ih =>
    have hstretch := S.step_stretch s m
    have hfirst : S.published? m s = S.captured? S.capture m s := by
      cases hcaptured : S.captured? S.capture m s with
      | none => rw [published?, hcaptured, ite_self]
      | some report =>
        obtain ⟨-, event, k, hok⟩ := of_captured? hcaptured
        have hlength := hsections.length event k report hok
        rw [published?, hcaptured,
          if_pos ((isHandled_iff hcaptured (hlength.trans_le hfits)).2 (by omega))]
    rw [published, captures, hfirst, ih]
    · rwa [hstretch.maxSection_eq S.capture_discreet]
    · rwa [hstretch.length_eq S.capture_discreet]

/-! ### What is left -/

section Presents

variable {reports : List (Report Bytes)} {r₀ : Region} (hnew : r₀.prepared = false)
  (hsections : S.Sections N) (hfits : N ≤ r₀.maxSection) (hroom : 108 + N ≤ r₀.memory.length)

include hnew hsections hfits hroom

/-- A step that holds no other steps. -/
theorem presents_single
    (h : r₀.Presents S.source.source.sectionType N reports.getLast? m.region) {m' : State σ}
    {s : Step} {a : Answer} {inside : List Outcome} (hs : s.isSingle = true)
    (heq : S.stepWith S.capture s m = (m', a, inside))
    (hc : Confined r₀.maxSection (traces inside ++ [.mk s a inside m'.view])) :
    r₀.Presents S.source.source.sectionType N
      (reports ++ (S.captured? S.capture m s).toList).getLast? m'.region := by
  cases effect_of_eq hs heq with
  | idle messages hne hr =>
    rw [hr, Option.toList_none, List.append_nil]
    exact h
  | published messages hfree hready hne hr =>
    rw [hr, Option.toList_none, List.append_nil]
    exact h.prepare hnew
  | stuck hfree hstuck hne hr =>
    rw [hr, Option.toList_none, List.append_nil]
    exact h.prepare hnew
  | @handled _ _ _ _ event captured _ outcome _ _ messages he haccept hcap hr hpub =>
    have hcprep := S.capture_discreet.prepared haccept hcap
    have hcaptured : r₀.Presents S.source.source.sectionType N reports.getLast?
        captured.region := by
      rw [S.capture_discreet.region_eq hcap]
      exact h.outsideAll (confined_append.1 hc).1
    rw [hr, State.region_say, State.region_settle]
    cases outcome with
    | error e =>
      cases hpub
      rw [show (Except.error e : Except CallError (Report Bytes)).toOption = none from rfl,
        Option.toList_none, List.append_nil]
      exact hcaptured
    | ok report =>
      have hlength := hsections.length event m.lock report (by rw [hcap])
      obtain ⟨r, hw, rfl, -⟩ := S.source.publish_of_fits hcprep
        (by rw [hcaptured.maxSection]; omega) (by rw [hcaptured.length]; omega) hpub
      rw [show (Except.ok report : Except CallError (Report Bytes)).toOption = some report from rfl,
        Option.toList_some, List.getLast?_concat]
      exact hcaptured.write hlength hw
  | outside e hm =>
    rw [show S.captured? S.capture m (.outside e) = none from rfl, Option.toList_none,
      List.append_nil, hm, State.region_outside]
    exact h.outside (hc e (by simp [Outcome.outside?]))

/-- Every step but an installation. -/
theorem presents_step
    (h : r₀.Presents S.source.source.sectionType N reports.getLast? m.region) {s : Step}
    (hs : s.isInstall = false) (hc : Confined r₀.maxSection (S.step s m).2.trace) :
    r₀.Presents S.source.source.sectionType N
      (reports ++ (S.captured? S.capture m s).toList).getLast? (S.step s m).1.region := by
  have hsingle : s.isSingle = true → r₀.Presents S.source.source.sectionType N
      (reports ++ (S.captured? S.capture m s).toList).getLast? (S.step s m).1.region := by
    intro hs
    rw [trace_step] at hc
    exact presents_single hnew hsections hfits hroom h hs rfl hc
  cases s with
  | install replies onRegister onInstall onUnregister => cases hs
  | withRegion steps =>
    rw [show S.captured? S.capture m (.withRegion steps) = none from rfl, Option.toList_none,
      List.append_nil, (S.withRegion_quiet steps m).1]
    exact h.outsideAll hc
  | _ => exact hsingle rfl

/-- Every run without installations. -/
theorem presents_run
    (h : r₀.Presents S.source.source.sectionType N reports.getLast? m.region)
    (hs : ∀ s ∈ steps, s.isInstall = false)
    (hc : Confined r₀.maxSection (traces (S.run steps m).2)) :
    r₀.Presents S.source.source.sectionType N (reports ++ S.captures steps m).getLast?
      (S.run steps m).1.region := by
  induction steps generalizing reports m with
  | nil =>
    rw [captures, List.append_nil]
    simpa [Scenario.run, stepsWith] using h
  | cons s rest ih =>
    rw [List.forall_mem_cons] at hs
    rw [run_cons, Outcome.traces_cons] at hc
    obtain ⟨hfirst, hrest⟩ := confined_append.1 hc
    rw [run_cons, captures, ← List.append_assoc]
    exact ih (presents_step hnew hsections hfits hroom h hs.1 hfirst) hs.2 hrest

end Presents

/-- **What a run leaves in the region**: the report that was published last, and nothing else. -/
theorem FreshRun.presents (h : S.FreshRun region steps m) (hsections : S.Sections N)
    (hlast : (S.published steps m).getLast? = some report) :
    region.Presents S.source.source.sectionType N (some report) (S.run steps m).1.region := by
  obtain ⟨rfl, hmax⟩ := h.region_eq
  have hfits : N ≤ m.region.maxSection := hsections.le.trans hmax
  have hroom := room_of_mem_published hsections hfits (List.mem_of_getLast? hlast)
  have hrun : m.region.Presents S.source.source.sectionType N
      ([] ++ S.captures steps m).getLast? (S.run steps m).1.region :=
    presents_run h.new hsections hfits hroom (.start h.new) h.calls h.confined
  rwa [List.nil_append, ← published_eq_captures hsections hfits hroom, hlast] at hrun

/-! ## Runs of the processor error source -/

section Processor

variable {P : Scenario Unit} {k : State Unit}

theorem sections_processor (hsource : P.source.source = processorSource) :
    P.Sections ProcessorSection.layout.size := by
  refine ⟨fun event m report h => ?_, by rw [hsource]; exact Nat.le_refl _⟩
  rw [capture_of_processor hsource, captureProcessor] at h
  cases hread : ProcessorSnapshot.layout.read .front event with
  | none =>
    rw [hread] at h
    cases h
  | some found =>
    rw [hread] at h
    cases h
    exact ProcessorSection.layout.length_encode _

/-- Some payloads hold a snapshot each, and these are the reports of the snapshots. -/
structure Told (payloads : List Bytes) (reports : List (Report Bytes)) : Prop where
  length : ∀ b ∈ payloads, ProcessorSnapshot.layout.size ≤ b.length
  eq : reports = payloads.map ProcessorSnapshot.reportOf

theorem Told.nothing : Told [] [] :=
  ⟨nofun, rfl⟩

theorem Told.append {payloads payloads' : List Bytes} {reports reports' : List (Report Bytes)}
    (h : Told payloads reports) (h' : Told payloads' reports') :
    Told (payloads ++ payloads') (reports ++ reports') := by
  refine ⟨List.forall_mem_append.2 ⟨h.length, h'.length⟩, ?_⟩
  rw [h.eq, h'.eq, List.map_append]

/-- What the processor error source publishes in a step that holds no other steps is the report of
the payload, if the event is handled to the end. -/
theorem told_single (hsource : P.source.source = processorSource)
    (hfits : ProcessorSection.layout.size ≤ k.region.maxSection) {s : Step}
    (hs : s.isSingle = true) :
    Told ((P.step s k).2.trace.filterMap Outcome.payload?) (P.published? k s).toList := by
  rw [trace_step, inside_processor hsource hs, Outcome.traces_nil, List.nil_append]
  rcases heq : P.stepWith P.capture s k with ⟨k', a, inside⟩
  have hstep : (P.step s k).2.answer = a := by
    rw [step, heq]
    rfl
  have hnone : a.isHandled = false →
      Told ([Outcome.mk s a [] k'.view].filterMap Outcome.payload?) (P.published? k s).toList := by
    intro ha
    have ho : (Outcome.mk s a [] k'.view).payload? = none := Outcome.payload?_of_not_handled ha
    rw [List.filterMap_cons_none ho, published?_of_not_handled (by rwa [hstep])]
    exact .nothing
  cases effect_of_eq hs heq with
  | idle messages hne hr ha => exact hnone (Answer.isHandled_of_fruitless ha)
  | published messages hfree hready hne hr hp =>
    exact hnone (Outcome.isHandled_of_publishes (hp k.view))
  | stuck hfree hstuck hne hr ha => exact hnone (Answer.isHandled_of_stuck ha)
  | outside e he => exact hnone rfl
  | @handled _ _ _ _ _ _ _ _ _ result messages hs' haccept hcap hr hpub ha =>
    obtain ⟨b, rfl, hb, rfl, hevent⟩ := accept_processor hsource haccept
    obtain ⟨-, hprep, -⟩ := P.source.of_accept haccept
    rw [capture_processor hsource hevent] at hcap
    cases hcap
    rw [ProcessorSnapshot.reportOf_take hb] at hr hpub
    -- The section fits, so that the report is published unless the call never returns.
    have hlength : (ProcessorSnapshot.reportOf b).content.length ≤ k.region.maxSection := by
      rwa [ProcessorSnapshot.length_reportOf]
    cases result with
    | none => exact hnone (Answer.isHandled_of_gives_none ha)
    | some result =>
      obtain ⟨r, -, -, hok⟩ :=
        P.source.publish_of_answered (by exact hprep) (by exact hlength) rfl hpub
      rw [hok] at ha
      have hhandled := Answer.isHandled_of_gives ha
      have ho : ∀ after, (Outcome.mk s a [] after).payload? = some b := by
        intro after
        rw [Outcome.payload?, if_pos hhandled, hs']
        rfl
      rw [published?, hstep, if_pos hhandled, hr, List.filterMap_cons_some (ho _),
        List.filterMap_nil]
      exact ⟨List.forall_mem_singleton.2 hb, rfl⟩

/-- **What the processor error source publishes in a run** are the reports of the payloads of those
events that are handled to the end. -/
theorem told_run (hsource : P.source.source = processorSource)
    (hfits : ProcessorSection.layout.size ≤ k.region.maxSection) {steps : List Step}
    (hsteps : ∀ s ∈ steps, s.isInstall = false) :
    Told ((traces (P.run steps k).2).filterMap Outcome.payload?) (P.published steps k) := by
  induction steps generalizing k with
  | nil => exact .nothing
  | cons s rest ih =>
    rw [List.forall_mem_cons] at hsteps
    have hfirst : Told ((P.step s k).2.trace.filterMap Outcome.payload?)
        (P.published? k s).toList := by
      cases s with
      | install replies onRegister onInstall onUnregister => cases hsteps.1
      | withRegion inside =>
        have hnone : (P.step (.withRegion inside) k).2.trace.filterMap Outcome.payload? = [] := by
          rw [List.filterMap_eq_nil_iff]
          intro o ho
          exact Outcome.payload?_of_not_handled
            (Answer.isHandled_of_fruitless ((P.withRegion_quiet inside k).2 o ho))
        rw [hnone, published?, show P.captured? P.capture k (.withRegion inside) = none from rfl,
          ite_self]
        exact .nothing
      | _ => exact told_single hsource hfits rfl
    have hnext := (P.step_stretch s k).maxSection_eq P.capture_discreet
    rw [published, run_cons, Outcome.traces_cons, List.filterMap_append]
    exact hfirst.append (ih (by rw [hnext]; exact hfits) hsteps.2)

/-- The descriptors are handed out, and then one event is handled. -/
def publishAndHandle (room : Bytes) (length count : Nat) (payload : Bytes) : List Step :=
  [.getDescriptors (some room) (some length) (some count),
    .handleEvent (some payload) (some payload.length)]

/-- A new processor error source captures the report of its first event. -/
theorem captures_publishAndHandle (hsource : P.source.source = processorSource)
    (hfree : k.hold = .free) (hidle : k.capturing = false)
    (hregisters : 16 ≤ k.region.memory.length) {room : Bytes} (hroom : 92 ≤ room.length)
    (length count : Nat) {payload : Bytes}
    (hpayload : payload.length = ProcessorSnapshot.layout.size) :
    P.captures (publishAndHandle room length count payload) k =
      [ProcessorSnapshot.reportOf payload] := by
  have hsize : P.source.source.eventSize = payload.length := by
    rw [hsource, hpayload]
    rfl
  have hready := Region.prepare_returns_iff.2 (.inr hregisters)
  obtain ⟨messages, hpublished⟩ : ∃ messages,
      (P.step (.getDescriptors (some room) (some length) (some count)) k).1 =
        ({ k with region := k.region.prepare.1 } : State Unit).say messages := by
    obtain ⟨log, hlog⟩ := Option.isSome_iff_exists.1 hready
    have hprepare : k.region.prepare = (k.region.prepare.1, some log) := Prod.ext rfl hlog
    have hfits : ¬ room.length < descriptorsLength := Nat.not_lt.2 hroom
    simp only [step, stepWith, ErrorSource.getDescriptors]
    rw [if_neg hfits, if_neg (by simp [hfree]), hprepare]
    exact ⟨_, rfl⟩
  have haccept : P.source.accept
      (P.step (.getDescriptors (some room) (some length) (some count)) k).1 (some payload)
      (some payload.length) = .ok payload := by
    rw [P.source.accept_eq_ok_iff, hpublished, hsize]
    exact ⟨payload, _, rfl, rfl, Nat.le_refl _, Nat.le_refl _, hfree,
      Region.prepared_prepare hready, hidle, (List.take_of_length_le (Nat.le_refl _)).symm⟩
  have hcaptured : P.captured? P.capture
      (P.step (.getDescriptors (some room) (some length) (some count)) k).1
      (.handleEvent (some payload) (some payload.length)) =
        some (ProcessorSnapshot.reportOf payload) := by
    rw [captured?, reportOf?, haccept]
    simp only [capture_processor hsource (Nat.le_of_eq hpayload.symm)]
    rfl
  rw [publishAndHandle, captures, captures, captures, hcaptured]
  rfl

/-- Nothing happens outside of a source that hands out its descriptors and handles one event. -/
theorem confined_publishAndHandle (hsource : P.source.source = processorSource) (maxSection : Nat)
    (room : Bytes) (length count : Nat) (payload : Bytes) :
    Confined maxSection (traces (P.run (publishAndHandle room length count payload) k).2) := by
  rw [publishAndHandle, run_cons, run_cons, Outcome.traces_cons, Outcome.traces_cons, trace_step,
    trace_step, inside_processor hsource rfl, inside_processor hsource rfl]
  intro e he
  cases he

/-- A new processor error source with room for its sections presents the report of its first
event. -/
theorem presents_publishAndHandle (hsource : P.source.source = processorSource)
    {platform : Platform} (hnew : region.prepared = false)
    (hstart : P.source.start region platform = .ok k)
    (hmemory : 108 + ProcessorSection.layout.size ≤ region.memory.length) {room : Bytes}
    (hroom : 92 ≤ room.length) (length count : Nat) {payload : Bytes}
    (hpayload : payload.length = ProcessorSnapshot.layout.size) :
    region.Presents P.source.source.sectionType ProcessorSection.layout.size
      (some (ProcessorSnapshot.reportOf payload))
      (P.run (publishAndHandle room length count payload) k).1.region := by
  have hsections := sections_processor hsource
  obtain ⟨hmax, rfl, -, hfree, hidle⟩ := ErrorSource.of_start hstart
  have hfresh : P.FreshRun k.region (publishAndHandle room length count payload) k :=
    ⟨hnew, ⟨platform, k.core, k, hstart, rfl⟩, by simp [publishAndHandle, Step.isInstall],
      confined_publishAndHandle hsource _ _ _ _ _⟩
  refine hfresh.presents hsections ?_
  rw [published_eq_captures hsections (hsections.le.trans hmax) hmemory,
    captures_publishAndHandle hsource hfree hidle (by omega) hroom length count hpayload]
  rfl

end Processor

/-- **The last report wins**, whatever has happened before. Of two sources of the same section type
that capture sections of one length, let each be called in any way from its start, over regions of
the same layout that held anything before, and let the operating system write to its acknowledgement
only. If the events that they handled to the end last gave the same report, their regions end up the
same outside the acknowledgement. Where all lengths can be counted, all that is captured is handled
to the end.

The status block of a processor error source is, after any such run, that of a new source which is
given nothing but the snapshot in the last payload that was handled to the end. Where lengths cannot
be counted, this is said of memory of one size, and of no more than what the acknowledgement leaves
of the status block. -/
theorem last_report_wins {σ σ' : Type} (S : Scenario σ) (S' : Scenario σ')
    (htype : S'.source.source.sectionType = S.source.source.sectionType) {N : Nat}
    (hsections : S.Sections N) (hsections' : S'.Sections N) :
    (∀ {region region' : Region} {steps steps' : List Step} {m : State σ} {m' : State σ'}
        {report : Report Bytes},
      S.FreshRun region steps m → S'.FreshRun region' steps' m' → region'.base = region.base →
      region'.memory.length = region.memory.length → region'.maxSection = region.maxSection →
      (S.published steps m).getLast? = some report →
      (S'.published steps' m').getLast? = some report →
      ∀ i, ¬ Zone.ackData.Covers region.maxSection i →
        (S'.run steps' m').1.region.memory[i]? = (S.run steps m).1.region.memory[i]?) ∧
    (∀ {region : Region} {steps : List Step} {m : State σ}, S.FreshRun region steps m →
      Addressable region.maxSection → S.published steps m = S.captures steps m) ∧
    (∀ {P : Scenario Unit} {region region' : Region} {steps : List Step} {k k' : State Unit}
        {payload room : Bytes} {platform : Platform} {length count : Nat},
      P.source.source = processorSource → P.FreshRun region steps k →
      ((traces (P.run steps k).2).filterMap Outcome.payload?).getLast? = some payload →
      region'.prepared = false → region'.maxSection = region.maxSection →
      P.source.start region' platform = .ok k' → 92 ≤ room.length →
      (Addressable region.maxSection → (P.run steps k).1.region.read .statusData =
        (P.run (publishAndHandle room length count (payload.take 624)) k').1.region.read
          .statusData) ∧
      (region'.memory.length = region.memory.length →
        ∀ i, Zone.statusData.Covers region.maxSection i →
          ¬ Zone.ackData.Covers region.maxSection i →
          (P.run steps k).1.region.memory[i]? =
            (P.run (publishAndHandle room length count
              (payload.take 624)) k').1.region.memory[i]?)) := by
  refine ⟨?_, ?_, ?_⟩
  · intro region region' steps steps' m m' report h h' hbase hlength hmax hlast hlast' i hack
    have hpresents := h.presents hsections hlast
    have hpresents' := h'.presents hsections' hlast'
    rw [htype] at hpresents'
    refine hpresents.getElem?_eq hpresents' hmax hack ?_
    rw [Region.prepare_congr h.new h'.new hbase hlength hmax]
  · intro region steps m h hlayout
    obtain ⟨rfl, hmax⟩ := h.region_eq
    have hfits : N ≤ m.region.maxSection := hsections.le.trans hmax
    have hl := m.region.length_memory hlayout
    exact published_eq_captures hsections hfits (by omega)
  · intro P region region' steps k k' payload room platform length count hsource h hpayload hnew
      hmax hstart hroom
    have hsections := sections_processor hsource
    obtain ⟨rfl, hsource_fits⟩ := h.region_eq
    have hfits := hsections.le.trans hsource_fits
    have htold := told_run hsource hfits h.calls
    have hlong : ProcessorSnapshot.layout.size ≤ payload.length :=
      htold.length payload (List.mem_of_getLast? hpayload)
    have hlast : (P.published steps k).getLast? = some (ProcessorSnapshot.reportOf payload) := by
      rw [htold.eq, List.getLast?_map, hpayload]
      rfl
    have hpresents := h.presents hsections hlast
    have hmemory := room_of_mem_published hsections hfits (List.mem_of_getLast? hlast)
    have hpresents' : 108 + ProcessorSection.layout.size ≤ region'.memory.length →
        region'.Presents P.source.source.sectionType ProcessorSection.layout.size
          (some (ProcessorSnapshot.reportOf payload))
          (P.run (publishAndHandle room length count (payload.take 624)) k').1.region := by
      intro hmemory'
      rw [← ProcessorSnapshot.reportOf_take hlong]
      exact presents_publishAndHandle hsource hnew hstart hmemory' hroom length count
        (List.length_take_of_le hlong)
    constructor
    · intro hlayout
      have hl' := region'.length_memory (by rwa [hmax])
      have hmemory' : 108 + ProcessorSection.layout.size ≤ region'.memory.length := by omega
      exact (hpresents' hmemory').read_statusData_eq hpresents hnew h.new hmax.symm
        (by rwa [hmax])
    · intro hlength i hi hack
      have hmemory' : 108 + ProcessorSection.layout.size ≤ region'.memory.length := by
        rwa [hlength]
      exact (hpresents' hmemory').getElem?_eq hpresents hmax.symm (by rwa [hmax])
        (Region.getElem?_prepare_congr hnew h.new hi.1 (by rw [hlength]))

end Scenario

/-- Another run of the sample source, over memory that held something else. -/
def Sample.otherStart : State Nat :=
  ⟨⟨0x1000, List.replicate 128 0x55, 4, false, by rw [List.length_replicate]; decide⟩, .free, 0,
    false, ⟨false, true⟩, platform⟩

/-- The sample source ends with the same bytes when it starts over other memory and handles fewer
events. A processor error source that was given 630 bytes ends with the status block of one that was
given the first 624 of them. -/
theorem last_report_wins_sample :
    (Sample.scenario.run (Sample.steps.drop 2) Sample.otherStart).1.region.memory[111]? =
      (Sample.scenario.run Sample.steps Sample.start).1.region.memory[111]? ∧
    (Sample.processorScenario.run (Scenario.publishAndHandle (List.replicate 92 0) 0 0
        (List.replicate 630 5)) (Sample.processorStart 1)).1.region.read .statusData =
      (Sample.processorScenario.run (Scenario.publishAndHandle (List.replicate 100 7) 3 4
        ((List.replicate 630 5).take 624)) (Sample.processorStart 2)).1.region.read
          .statusData := by
  have hcapture : ∀ event m, (Sample.scenario.capture event m).2.1 =
      .ok ⟨⟨.corrected, .empty, 0⟩, [1, 2, 3]⟩ := by
    rintro event ⟨region, hold, _ | n, capturing, core, platform⟩ <;> rfl
  have hsections : Sample.scenario.Sections 3 := by
    refine ⟨fun event m report h => ?_, by decide⟩
    rw [hcapture] at h
    cases h
    rfl
  have hrun : Sample.scenario.FreshRun Sample.region Sample.steps Sample.start :=
    ⟨rfl, ⟨Sample.platform, ⟨false, false⟩, Sample.start, rfl, rfl⟩, by decide, by decide +kernel⟩
  have hother : Sample.scenario.FreshRun Sample.otherStart.region (Sample.steps.drop 2)
      Sample.otherStart :=
    ⟨rfl, ⟨Sample.platform, ⟨false, true⟩, _, rfl, rfl⟩, by decide, by decide +kernel⟩
  have hprocessor : Sample.processorScenario.FreshRun (Sample.processorRegion 1)
      (Scenario.publishAndHandle (List.replicate 92 0) 0 0 (List.replicate 630 5))
      (Sample.processorStart 1) :=
    ⟨rfl, ⟨Sample.platform, ⟨false, false⟩, Sample.processorStart 1, rfl, rfl⟩, by decide,
      Scenario.confined_publishAndHandle rfl _ _ _ _ _⟩
  have hpayload : ((traces (Sample.processorScenario.run
      (Scenario.publishAndHandle (List.replicate 92 0) 0 0 (List.replicate 630 5))
      (Sample.processorStart 1)).2).filterMap Outcome.payload?).getLast? =
        some (List.replicate 630 5) := by
    decide +kernel
  have hlast : (Sample.scenario.published Sample.steps Sample.start).getLast? =
      some ⟨⟨.corrected, .empty, 0⟩, [1, 2, 3]⟩ := by
    decide +kernel
  have hlast' : (Sample.scenario.published (Sample.steps.drop 2) Sample.otherStart).getLast? =
      some ⟨⟨.corrected, .empty, 0⟩, [1, 2, 3]⟩ := by
    decide +kernel
  have hlength : Sample.otherStart.region.memory.length = Sample.region.memory.length := by
    decide +kernel
  have hnew : (Sample.processorRegion 2).prepared = false := rfl
  have hstart : Sample.processorScenario.source.start (Sample.processorRegion 2) Sample.platform =
      .ok (Sample.processorStart 2) := rfl
  have hroom : 92 ≤ (List.replicate 100 (7 : UInt8)).length := by decide
  have hlayout : Addressable Sample.region.maxSection := by decide
  have hprocessorLayout : Addressable (Sample.processorRegion 1).maxSection := by decide
  obtain ⟨hsame, -, hstatus⟩ :=
    Scenario.last_report_wins Sample.scenario Sample.scenario rfl hsections hsections
  refine ⟨hsame hrun hother rfl hlength rfl hlast hlast' 111 ?_,
    (hstatus rfl hprocessor hpayload hnew rfl hstart hroom).1 hprocessorLayout⟩
  rw [hlayout.covers_ackData_iff]
  decide

end FirmwareFirst
