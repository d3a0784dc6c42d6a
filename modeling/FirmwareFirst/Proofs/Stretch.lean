import FirmwareFirst.Proofs.Refusals

/-!
# Stretches of a run

A stretch of a run leads from one state to another and leaves a trace. `Scenario.Stretch` lists the
pieces that stretches are joined from, and `stepsWith_stretch` says that every run is a stretch:
what each piece keeps is therefore kept by runs, however deep their steps hold other steps.
-/

namespace FirmwareFirst.Scenario

open Outcome (traces)

variable {σ : Type} {S : Scenario σ} {capture : Capturing σ}

/-- A stretch of a run from one state to another, with the outcomes that came of it. -/
inductive Stretch (S : Scenario σ) (capture : Capturing σ) :
    State σ → List Outcome → State σ → Prop where
  | stay (m : State σ) : Stretch S capture m [] m
  | join {m n k : State σ} {s t : List Outcome} (first : Stretch S capture m s n)
      (rest : Stretch S capture n t k) : Stretch S capture m (s ++ t) k
  /-- An installation logs. -/
  | say (m : State σ) (messages : List Message) : Stretch S capture m [] (m.say messages)
  /-- The firmware core changes what it remembers. -/
  | core (m : State σ) (c : CoreRecord) : Stretch S capture m [] { m with core := c }
  /-- A step that holds no other steps. -/
  | single {m m' : State σ} {s : Step} {a : Answer} {inside : List Outcome}
      (hs : s.isSingle = true) (heq : S.stepWith capture s m = (m', a, inside)) :
      Stretch S capture m (traces inside ++ [.mk s a inside m'.view]) m'
  /-- The region is read while steps happen. -/
  | region {m n n' : State σ} {hold : Hold} {steps : List Step} {inside : List Outcome}
      (hshare : m.hold.share? = some hold)
      (happen : Stretch S capture { m with hold := hold } (traces inside) n)
      (hn : n' = { n with hold := n.hold.unshare }) :
      Stretch S capture m
        (traces inside ++ [.mk (.withRegion steps) (.region (.ok m.region)) inside n'.view]) n'
  /-- The region cannot be read. -/
  | refused {m : State σ} (hm : m.hold = .exclusive) (steps : List Step) :
      Stretch S capture m [.mk (.withRegion steps) (.region (.error .reentrant)) [] m.view] m
  /-- An installation is over. -/
  | installed (m : State σ) (replies : CoreReplies) (onRegister onInstall onUnregister : List Step)
      (result : Except CallError Handle) (calls : List CoreCall) (inside : List Outcome) :
      Stretch S capture m [.mk (.install replies onRegister onInstall onUnregister)
        (.installed result calls) inside m.view] m

/-! ## Installations -/

/-- A stretch from `m` leads to where an installation has come to. -/
abbrev Leads (S : Scenario σ) (capture : Capturing σ) (m : State σ) (w : Installing σ) : Prop :=
  Stretch S capture m (traces w.inside) w.state

theorem Stretch.after {m n k : State σ} {t : List Outcome} (h : Stretch S capture m t n)
    (hk : Stretch S capture n [] k) : Stretch S capture m t k := by
  have hj := h.join hk
  rwa [List.append_nil] at hj

theorem Leads.core {m : State σ} {w : Installing σ} (h : Leads S capture m w)
    (core : CoreRecord → CoreRecord) :
    Leads S capture m { w with state := { w.state with core := core w.state.core } } :=
  h.after (.core w.state _)

theorem Leads.say {m : State σ} {w : Installing σ} (h : Leads S capture m w)
    (messages : List Message) :
    Leads S capture m { w with state := w.state.say messages } :=
  h.after (.say w.state messages)

theorem Leads.request {m : State σ} {w : Installing σ} (h : Leads S capture m w) (call : CoreCall)
    (core : CoreRecord → CoreRecord) {happen : State σ → State σ × List Outcome}
    (hhappen : ∀ m, Stretch S capture m (traces (happen m).2) (happen m).1) :
    Leads S capture m (w.request call core happen) := by
  have hj := (h.core core).join (hhappen _)
  rw [← Outcome.traces_append] at hj
  exact hj

/-- An installation is a stretch if the steps are that happen during its requests. -/
theorem install_stretch (m : State σ) (replies : CoreReplies)
    {onRegister onInstall onUnregister : State σ → State σ × List Outcome}
    (hregister : ∀ m, Stretch S capture m (traces (onRegister m).2) (onRegister m).1)
    (hinstall : ∀ m, Stretch S capture m (traces (onInstall m).2) (onInstall m).1)
    (hunregister : ∀ m, Stretch S capture m (traces (onUnregister m).2) (onUnregister m).1) :
    Leads S capture m (installSource
      (Installing.services replies onRegister onInstall onUnregister) S.source.config
      ⟨m, [], []⟩).1 := by
  obtain ⟨onRegistered, onInstalled, onUnregistered⟩ := replies
  have h : Leads S capture m ⟨m, [], []⟩ := .stay m
  replace h := h.request (.register S.source.config.handler)
    (fun c => { c with handler := true }) hregister
  unfold installSource
  cases onRegistered with
  | error status => exact h.say _
  | ok registration =>
    replace h := h.request (.install descriptorProtocol)
      (fun c => { c with interface := true }) hinstall
    cases onInstalled with
    | ok handle => exact h.say _
    | error status =>
      replace h := ((h.core (fun c => { c with interface := false })).say
        [.interfaceNotInstalled S.source.config.sourceId status]).request (.unregister registration)
          (fun c => { c with handler := false }) hunregister
      cases onUnregistered with
      | ok => exact h
      | error failure => exact h.say _

/-! ## Runs -/

mutual

/-- Every step is a stretch. -/
theorem stepWith_stretch (S : Scenario σ) (capture : Capturing σ) (m : State σ) :
    (s : Step) → Stretch S capture m
      (traces (S.stepWith capture s m).2.2 ++ [.mk s (S.stepWith capture s m).2.1
        (S.stepWith capture s m).2.2 (S.stepWith capture s m).1.view])
      (S.stepWith capture s m).1
  | .withRegion inside => by
    rw [stepWith]
    cases hk : m.hold.share? with
    | none => exact .refused (Hold.share?_eq_none_iff.1 hk) inside
    | some hold => exact .region hk (stepsWith_stretch S capture _ inside) rfl
  | .install replies onRegister onInstall onUnregister => by
    rw [stepWith]
    refine .join (install_stretch m replies ?_ ?_ ?_) (.installed ..)
    · intro m
      exact stepsWith_stretch S capture m onRegister
    · intro m
      exact stepsWith_stretch S capture m onInstall
    · intro m
      exact stepsWith_stretch S capture m onUnregister
  | .getDescriptors buffer length count => .single rfl rfl
  | .descriptor => .single rfl rfl
  | .handleEvent buffer size => .single rfl rfl
  | .handle buffer size => .single rfl rfl
  | .dispatch buffer size => .single rfl rfl
  | .callInterface call => .single rfl rfl
  | .config => .single rfl rfl
  | .outside event => .single rfl rfl

/-- **Every run is a stretch.** -/
theorem stepsWith_stretch (S : Scenario σ) (capture : Capturing σ) (m : State σ) :
    (steps : List Step) → Stretch S capture m (traces (S.stepsWith capture steps m).2)
      (S.stepsWith capture steps m).1
  | [] => by
    rw [stepsWith]
    exact .stay m
  | s :: rest => by
    rw [stepsWith]
    rw [Outcome.traces_cons, Outcome.trace_mk]
    exact .join (stepWith_stretch S capture m s) (stepsWith_stretch S capture _ rest)

end

/-! ## While the region is in use -/

/-- Whoever uses the region and the event source before a stretch also does so afterwards, and all
calls return. -/
theorem Stretch.hold_of_held {m n : State σ} {t : List Outcome} (h : Stretch S capture m t n)
    (hm : m.hold ≠ .free) :
    n.hold = m.hold ∧ n.capturing = m.capturing ∧ ∀ o ∈ t, o.returns = true := by
  induction h with
  | stay => exact ⟨rfl, rfl, by simp⟩
  | join first rest ihf ihr =>
    obtain ⟨hhold, hcapturing, hreturns⟩ := ihf hm
    obtain ⟨hhold', hcapturing', hreturns'⟩ := ihr (by rwa [hhold])
    exact ⟨hhold'.trans hhold, hcapturing'.trans hcapturing,
      List.forall_mem_append.2 ⟨hreturns, hreturns'⟩⟩
  | say => exact ⟨rfl, rfl, by simp⟩
  | core => exact ⟨rfl, rfl, by simp⟩
  | @single m m' s a inside hs heq =>
    cases effect_of_eq hs heq with
    | idle messages hne hr ha =>
      exact ⟨rfl, rfl, List.forall_mem_singleton.2 (Outcome.returns_of_fruitless ha)⟩
    | published messages hfree => exact (hm hfree).elim
    | stuck hfree => exact (hm hfree).elim
    | handled messages he haccept => exact (hm (S.source.of_accept haccept).1).elim
    | outside e he =>
      subst he
      cases e <;> exact ⟨rfl, rfl, List.forall_mem_singleton.2 rfl⟩
  | region hshare happen hn ih =>
    obtain ⟨hhold, hcapturing, hreturns⟩ := ih (Hold.ne_free_of_share? hshare)
    subst hn
    refine ⟨?_, hcapturing,
      List.forall_mem_append.2 ⟨hreturns, List.forall_mem_singleton.2 rfl⟩⟩
    simp only
    rw [hhold]
    exact Hold.unshare_share? hshare
  | refused => exact ⟨rfl, rfl, List.forall_mem_singleton.2 rfl⟩
  | installed => exact ⟨rfl, rfl, List.forall_mem_singleton.2 rfl⟩

theorem Stretch.held {m n : State σ} {t : List Outcome} (h : Stretch S capture m t n)
    (hm : m.hold ≠ .free) : n.hold ≠ .free := by
  rwa [(h.hold_of_held hm).1]

/-- While the region is in use, only what happens outside of the error source changes it. -/
theorem Stretch.region_of_held {m n : State σ} {t : List Outcome} (h : Stretch S capture m t n)
    (hm : m.hold ≠ .free) : n.region = m.region.outsideAll t := by
  induction h with
  | stay => rfl
  | join first rest ihf ihr =>
    rw [Region.outsideAll_append, ← ihf hm]
    exact ihr (by rwa [(first.hold_of_held hm).1])
  | say => rfl
  | core => rfl
  | @single m m' s a inside hs heq =>
    cases effect_of_eq hs heq with
    | idle messages hs hr ha =>
      exact (Region.outsideAll_of_call _ (Outcome.outside?_of_ne hs)).symm
    | published messages hfree => exact (hm hfree).elim
    | stuck hfree => exact (hm hfree).elim
    | handled messages hs haccept => exact (hm (S.source.of_accept haccept).1).elim
    | outside e he =>
      rw [he, State.region_outside]
      simp [Region.outsideAll, Outcome.outside?]
  | region hshare happen hn ih =>
    subst hn
    rw [Region.outsideAll_append, Region.outsideAll_of_call _ rfl]
    exact ih (Hold.ne_free_of_share? hshare)
  | refused => exact (Region.outsideAll_of_call _ rfl).symm
  | installed => exact (Region.outsideAll_of_call _ rfl).symm

/-- What an outcome is like that comes about while the region is in use as `hold` says. -/
structure Calm (S : Scenario σ) (hold : Hold) (o : Outcome) : Prop where
  fruitless : o.answer.Fruitless
  /-- No event is captured. -/
  alone : o.step.event?.isSome = true → o.inside = []
  hidden : hold = .exclusive → o.after = .error .reentrant
  refused : hold = .exclusive → o.step.reaches S.source.source.eventSize = true →
    o.answer.Reentrant ∨ o.step.Unheard o.answer

/-- A step that holds no other steps comes to a calm outcome while the region is in use. -/
theorem calm_single {m m' : State σ} {s : Step} {a : Answer} {inside : List Outcome}
    (hm : m.hold ≠ .free) (hs : s.isSingle = true)
    (heq : S.stepWith capture s m = (m', a, inside)) :
    inside = [] ∧ Calm S m.hold (.mk s a inside m'.view) := by
  have hstretch := Stretch.single hs heq
  have hrefused : m.hold = .exclusive → s.reaches S.source.source.eventSize = true →
      a.Reentrant ∨ s.Unheard a := by
    intro hm hr
    have h := S.reentrant_of_exclusive capture hm hr
    rwa [heq] at h
  have hhidden : m.hold = .exclusive → m'.view = .error .reentrant := by
    intro hm
    exact State.view_of_exclusive ((hstretch.hold_of_held (by simp [hm])).1.trans hm)
  cases effect_of_eq hs heq with
  | idle messages hne hr ha => exact ⟨rfl, ha, fun _ => rfl, hhidden, hrefused⟩
  | published messages hfree => exact (hm hfree).elim
  | stuck hfree => exact (hm hfree).elim
  | handled messages he haccept =>
    exact (hm (S.source.of_accept haccept).1).elim
  | outside e he => exact ⟨rfl, trivial, fun _ => rfl, hhidden, hrefused⟩

/-- While the region is in use, all outcomes are calm. -/
theorem Stretch.calm {m n : State σ} {t : List Outcome} (h : Stretch S capture m t n)
    (hm : m.hold ≠ .free) : ∀ o ∈ t, Calm S m.hold o := by
  induction h with
  | stay => simp
  | join first rest ihf ihr =>
    rw [(first.hold_of_held hm).1] at ihr
    exact List.forall_mem_append.2 ⟨ihf hm, ihr hm⟩
  | say => simp
  | core => simp
  | single hs heq =>
    obtain ⟨rfl, hcalm⟩ := calm_single hm hs heq
    exact List.forall_mem_singleton.2 hcalm
  | region hshare happen hn ih =>
    have hshared : ∀ {h k : Hold}, h.share? = some k → h ≠ .exclusive := by
      rintro h k hk rfl
      cases hk
    have hno := hshared hshare
    refine List.forall_mem_append.2 ⟨fun o ho => ?_, List.forall_mem_singleton.2 ?_⟩
    · have hcalm := ih (Hold.ne_free_of_share? hshare) o ho
      exact ⟨hcalm.fruitless, hcalm.alone, fun h => (hno h).elim, fun h => (hno h).elim⟩
    · exact ⟨trivial, nofun, fun h => (hno h).elim, fun h => (hno h).elim⟩
  | refused hm' steps =>
    refine List.forall_mem_singleton.2 ⟨trivial, nofun, fun h => ?_, fun _ _ => .inl rfl⟩
    exact State.view_of_exclusive h
  | installed =>
    refine List.forall_mem_singleton.2 ⟨trivial, nofun, fun h => ?_, nofun⟩
    exact State.view_of_exclusive h

/-- What a stretch keeps that begins while the region is in use. -/
structure Kept (S : Scenario σ) (m : State σ) (t : List Outcome) (n : State σ) : Prop where
  hold : n.hold = m.hold
  capturing : n.capturing = m.capturing
  region : n.region = m.region.outsideAll t
  calm : ∀ o ∈ t, Calm S m.hold o

theorem Kept.trans {m n k : State σ} {s t : List Outcome} (h : Kept S m s n) (h' : Kept S n t k) :
    Kept S m (s ++ t) k := by
  refine ⟨h'.hold.trans h.hold, h'.capturing.trans h.capturing, ?_, ?_⟩
  · rw [h'.region, h.region, Region.outsideAll_append]
  · have hcalm := h'.calm
    rw [h.hold] at hcalm
    exact List.forall_mem_append.2 ⟨h.calm, hcalm⟩

theorem Kept.fruitless {m n : State σ} {t : List Outcome} (h : Kept S m t n) :
    ∀ o ∈ t, o.answer.Fruitless := by
  intro o ho
  exact (h.calm o ho).fruitless

theorem Stretch.kept {m n : State σ} {t : List Outcome} (h : Stretch S capture m t n)
    (hm : m.hold ≠ .free) : Kept S m t n := by
  obtain ⟨hhold, hcapturing, -⟩ := h.hold_of_held hm
  exact ⟨hhold, hcapturing, h.region_of_held hm, h.calm hm⟩

/-! ## Captures -/

theorem interrupt_kept (S : Scenario σ) (nested : Capturing σ) {m : State σ} (hm : m.hold ≠ .free)
    (bus : Bus) :
    Kept S m (traces (S.interrupt nested m bus).2) (S.interrupt nested m bus).1 := by
  cases bus with
  | bank => exact (stepsWith_stretch S nested m _).kept hm
  | device =>
    have h : Stretch S nested m [] m := .stay m
    exact h.kept hm

/-- Captures leave the region to what happens outside of the error source, and hide it. -/
def Discreet (S : Scenario σ) (capture : Capturing σ) : Prop :=
  ∀ (event : Bytes) (m : State σ),
    Kept S m.lock (traces (capture event m.lock).2.2) (capture event m.lock).1

theorem perform_kept (S : Scenario σ) (nested : Capturing σ) (c : Capture Step Answer σ)
    {m : State σ} (hm : m.hold ≠ .free) :
    Kept S m (traces (S.perform nested c m).2.2) (S.perform nested c m).1 := by
  have hinner : ∀ (m : State σ) (inner : σ), Kept S m [] { m with inner := inner } :=
    fun _ _ => ⟨rfl, rfl, rfl, by simp⟩
  have hplatform : ∀ (m : State σ) (p : Platform), Kept S m [] { m with platform := p } :=
    fun _ _ => ⟨rfl, rfl, rfl, by simp⟩
  induction c generalizing m with
  | finish inner outcome => exact hinner m inner
  | log message next ih => exact (hplatform m _).trans (ih hm)
  | record access next ih => exact (hplatform m _).trans (ih hm)
  | load bus address next ih =>
    have hi := S.interrupt_kept nested hm bus
    rw [perform]
    simp only [Outcome.traces_append]
    exact hi.trans ((hplatform _ _).trans (ih _ (by rwa [hi.hold])))
  | store bus address value next ih =>
    have hi := S.interrupt_kept nested hm bus
    rw [perform]
    simp only [Outcome.traces_append]
    exact hi.trans ((hplatform _ _).trans (ih (by rwa [hi.hold])))
  | call request next ih =>
    have hs := (stepWith_stretch S nested m request).kept hm
    rw [perform]
    simp only [Outcome.traces_cons, Outcome.trace_mk]
    exact hs.trans (ih _ (by rwa [hs.hold]))

theorem capture_discreet (S : Scenario σ) : Discreet S S.capture := by
  intro event m
  have hlocked : m.lock.hold ≠ .free := by simp [State.lock]
  exact S.perform_kept noCapture (S.source.source.capture m.lock.inner event) hlocked

namespace Discreet

variable {m captured : State σ} {event : Bytes} {outcome : Except CallError (Report Bytes)}
  {inside : List Outcome}

theorem kept (h : Discreet S capture)
    (hcap : capture event m.lock = (captured, outcome, inside)) :
    Kept S m.lock (traces inside) captured := by
  have hkept := h event m
  rwa [hcap] at hkept

/-- While an event is captured, only what happens outside changes the region. -/
theorem region_eq (h : Discreet S capture)
    (hcap : capture event m.lock = (captured, outcome, inside)) :
    captured.region = m.region.outsideAll (traces inside) :=
  (h.kept hcap).region

theorem maxSection_eq (h : Discreet S capture)
    (hcap : capture event m.lock = (captured, outcome, inside)) :
    captured.region.maxSection = m.region.maxSection := by
  rw [h.region_eq hcap, Region.maxSection_outsideAll]

theorem length_eq (h : Discreet S capture)
    (hcap : capture event m.lock = (captured, outcome, inside)) :
    captured.region.memory.length = m.region.memory.length := by
  rw [h.region_eq hcap, Region.length_outsideAll]

/-- Where an event is captured, the region is prepared. -/
theorem prepared (h : Discreet S capture) {buffer : Option Bytes} {size : Option Nat}
    (haccept : S.source.accept m buffer size = .ok event)
    (hcap : capture event m.lock = (captured, outcome, inside)) :
    captured.region.prepared = true := by
  rw [h.region_eq hcap, Region.prepared_outsideAll, (S.source.of_accept haccept).2.1]

end Discreet

/-! ## Calls that never return -/

/-- **Who uses the region after a stretch**: whoever did before it, unless a call never returned,
which then goes on using it. -/
theorem Stretch.hold_eq (hcapture : Discreet S capture) {m n : State σ} {t : List Outcome}
    (h : Stretch S capture m t n) :
    n.hold = (if t.all Outcome.returns then m.hold else .exclusive) ∧
      (t.all Outcome.returns = true → n.capturing = m.capturing) := by
  have hone : ∀ {m : State σ} {o : Outcome}, o.returns = true →
      m.hold = (if [o].all Outcome.returns then m.hold else .exclusive) := by
    intro m o ho
    simp [ho]
  induction h with
  | stay => exact ⟨rfl, fun _ => rfl⟩
  | join first rest ihf ihr =>
    rw [List.all_append]
    constructor
    · rw [ihr.1, ihf.1]
      generalize List.all _ _ = f
      generalize List.all _ _ = r
      cases f <;> cases r <;> rfl
    · intro h
      obtain ⟨hf, hr⟩ := Bool.and_eq_true_iff.1 h
      exact (ihr.2 hr).trans (ihf.2 hf)
  | say => exact ⟨rfl, fun _ => rfl⟩
  | core => exact ⟨rfl, fun _ => rfl⟩
  | @single m m' s a inside hs heq =>
    cases effect_of_eq hs heq with
    | idle messages hne hr ha => exact ⟨hone (Outcome.returns_of_fruitless ha), fun _ => rfl⟩
    | published messages hfree hready hne hr hp =>
      exact ⟨hone (Outcome.returns_of_publishes (hp _)), fun _ => rfl⟩
    | stuck hfree hstuck hne hr ha =>
      have hno : ∀ after, (Outcome.mk s a [] after).returns = false :=
        fun _ => Outcome.returns_of_stuck ha
      exact ⟨by simp [hno], fun _ => rfl⟩
    | @handled _ _ _ _ event captured _ outcome _ result messages he haccept hcap hr hpub ha =>
      obtain ⟨hfree, -, hidle⟩ := S.source.of_accept haccept
      have hkept := hcapture.kept hcap
      have hinside : (traces inside).all Outcome.returns = true :=
        List.all_eq_true.2 fun o ho => Outcome.returns_of_fruitless (hkept.fruitless o ho)
      rw [List.all_append, hinside, Bool.true_and, List.all_cons, List.all_nil, Bool.and_true,
        Outcome.returns_of_gives ha]
      cases result with
      | some result => exact ⟨hfree.symm, fun _ => hidle.symm⟩
      | none =>
        refine ⟨?_, nofun⟩
        rcases S.source.publish_cases hpub with ⟨-, e, he, -⟩ | ⟨-, -, -, -, -, he⟩ |
          ⟨report, -, -, rfl, -⟩
        · cases he
        · cases he
        · exact hkept.hold
    | outside e he =>
      subst he
      cases e <;> exact ⟨hone rfl, fun _ => rfl⟩
  | region hshare happen hn ih =>
    obtain ⟨hhold, hcapturing, hreturns⟩ :=
      happen.hold_of_held (Hold.ne_free_of_share? hshare)
    subst hn
    rw [List.all_append, List.all_eq_true.2 hreturns, Bool.true_and]
    refine ⟨?_, fun _ => hcapturing⟩
    simp only
    rw [hhold]
    exact (Hold.unshare_share? hshare).trans (hone rfl)
  | refused => exact ⟨hone rfl, fun _ => rfl⟩
  | installed => exact ⟨hone rfl, fun _ => rfl⟩

/-! ## What is kept of the region -/

/-- **What is kept of the region.** What is kept when the region is prepared, when a report that was
captured is published, and by all that happens outside, is kept by every stretch. -/
theorem Stretch.region_kept {I : Region → Prop} (hcapture : Discreet S capture)
    (hprepare : ∀ r, I r → I r.prepare.1)
    (hpublish : ∀ event k report, (capture event k).2.1 = .ok report →
      ∀ r, I r → I (r.publish S.source.source.sectionType report).1)
    {m n : State σ} {t : List Outcome} (h : Stretch S capture m t n)
    (houtside : ∀ e ∈ t.filterMap Outcome.outside?, ∀ r, I r → I (r.outside e))
    (hm : I m.region) : I n.region := by
  induction h with
  | stay => exact hm
  | join first rest ihf ihr =>
    rw [List.filterMap_append, List.forall_mem_append] at houtside
    exact ihr houtside.2 (ihf houtside.1 hm)
  | say => exact hm
  | core => exact hm
  | @single m m' s a inside hs heq =>
    rw [List.filterMap_append, List.forall_mem_append] at houtside
    cases effect_of_eq hs heq with
    | idle => exact hm
    | published => exact hprepare _ hm
    | stuck => exact hprepare _ hm
    | @handled _ _ _ _ event captured _ outcome _ _ messages _ _ hcap _ hpub =>
      have hcaptured : I captured.region := by
        rw [hcapture.region_eq hcap]
        exact Region.outsideAll_kept houtside.1 hm
      rw [State.region_say, State.region_settle]
      cases outcome with
      | error e =>
        cases hpub
        exact hcaptured
      | ok report =>
        have hregion := S.source.region_publish captured report
        rw [hpub] at hregion
        rw [hregion]
        exact hpublish event m.lock report (by rw [hcap]) _ hcaptured
    | outside e he =>
      rw [he, State.region_outside]
      exact houtside.2 e (by simp [Outcome.outside?]) _ hm
  | region hshare happen hn ih =>
    subst hn
    rw [List.filterMap_append, List.forall_mem_append] at houtside
    exact ih houtside.1 hm
  | refused => exact hm
  | installed => exact hm

/-- What preparing a region and storing into it leave alone, every stretch leaves alone. -/
theorem Stretch.region_fixed {α : Type} {f : Region → α} (hprepare : ∀ r, f r.prepare.1 = f r)
    (hstore : ∀ r start data, f (Region.store r start data) = f r) (hcapture : Discreet S capture)
    {m n : State σ} {t : List Outcome} (h : Stretch S capture m t n) :
    f n.region = f m.region := by
  refine h.region_kept (I := fun r => f r = f m.region) hcapture ?_ ?_ ?_ rfl
  · intro r hr
    rw [hprepare, hr]
  · intro event k report _ r hr
    refine Region.publish_kept (I := fun r => f r = f m.region) (fun r start data h => ?_) hr _ _
    rw [hstore, h]
  · intro e _ r hr
    cases e with
    | writeMemory offset data => exact (hstore r offset data).trans hr
    | _ => exact hr

/-- A region is laid out once and for all. -/
theorem Stretch.maxSection_eq (hcapture : Discreet S capture) {m n : State σ} {t : List Outcome}
    (h : Stretch S capture m t n) : n.region.maxSection = m.region.maxSection :=
  h.region_fixed Region.maxSection_prepare Region.maxSection_store hcapture

/-- A region stays where it is. -/
theorem Stretch.base_eq (hcapture : Discreet S capture) {m n : State σ} {t : List Outcome}
    (h : Stretch S capture m t n) : n.region.base = m.region.base :=
  h.region_fixed Region.base_prepare Region.base_store hcapture

/-- A region stays as large as it is. -/
theorem Stretch.length_eq (hcapture : Discreet S capture) {m n : State σ} {t : List Outcome}
    (h : Stretch S capture m t n) : n.region.memory.length = m.region.memory.length :=
  h.region_fixed (f := fun r => r.memory.length) Region.length_memory_prepare
    (fun _ _ _ => Bytes.length_overwrite ..) hcapture

/-- **All calls return** where the memory is large enough for the registers and for the sections
that are captured. -/
theorem Stretch.returns_of_room (hcapture : Discreet S capture) {m n : State σ} {t : List Outcome}
    (h : Stretch S capture m t n) (hregisters : 16 ≤ m.region.memory.length)
    (hsections : ∀ event k report, (capture event k).2.1 = .ok report →
      report.content.length ≤ m.region.maxSection →
        108 + report.content.length ≤ m.region.memory.length) :
    ∀ o ∈ t, o.returns = true := by
  induction h with
  | stay => simp
  | join first rest ihf ihr =>
    have hn := first.length_eq hcapture
    have hmax := first.maxSection_eq hcapture
    exact List.forall_mem_append.2 ⟨ihf hregisters hsections,
      ihr (by rwa [hn]) (by rwa [hn, hmax])⟩
  | say => simp
  | core => simp
  | @single m m' s a inside hs heq =>
    cases effect_of_eq hs heq with
    | idle messages hne hr ha =>
      exact List.forall_mem_singleton.2 (Outcome.returns_of_fruitless ha)
    | published messages hfree hready hne hr hp =>
      exact List.forall_mem_singleton.2 (Outcome.returns_of_publishes (hp _))
    | stuck hfree hstuck =>
      have hready := Region.prepare_returns_iff.2 (.inr hregisters)
      rw [hstuck] at hready
      cases hready
    | @handled _ _ _ _ event captured _ outcome _ result messages he haccept hcap hr hpub ha =>
      refine List.forall_mem_append.2 ⟨fun o ho => Outcome.returns_of_fruitless
        ((hcapture.kept hcap).fruitless o ho), List.forall_mem_singleton.2 ?_⟩
      rw [Outcome.returns_of_gives ha]
      rcases S.source.publish_cases hpub with ⟨-, e, rfl, -⟩ | ⟨-, -, -, -, -, rfl⟩ |
        ⟨report, rfl, hw, -⟩
      · rfl
      · rfl
      · obtain ⟨-, hmax, hsmall⟩ := Region.write_eq_none_iff.1 hw
        have hlength := hcapture.length_eq hcap
        rw [hcapture.maxSection_eq hcap] at hmax
        have hroom := hsections event m.lock report (by rw [hcap]) hmax
        omega
    | outside => exact List.forall_mem_singleton.2 rfl
  | region hshare happen hn ih =>
    exact List.forall_mem_append.2 ⟨ih hregisters hsections, List.forall_mem_singleton.2 rfl⟩
  | refused => exact List.forall_mem_singleton.2 rfl
  | installed => exact List.forall_mem_singleton.2 rfl

/-- Where all lengths can be counted, all calls return. -/
theorem Stretch.returns_of_addressable (hcapture : Discreet S capture) {m n : State σ}
    {t : List Outcome} (h : Stretch S capture m t n) (hlayout : Addressable m.region.maxSection) :
    ∀ o ∈ t, o.returns = true := by
  have hl := m.region.length_memory hlayout
  exact h.returns_of_room hcapture (by omega) fun _ _ _ _ _ => by omega

/-! ## Steps of a run -/

theorem trace_step (S : Scenario σ) (s : Step) (m : State σ) :
    (S.step s m).2.trace = traces (S.stepWith S.capture s m).2.2 ++
      [.mk s (S.stepWith S.capture s m).2.1 (S.stepWith S.capture s m).2.2
        (S.stepWith S.capture s m).1.view] :=
  Outcome.trace_mk ..

theorem step_stretch (S : Scenario σ) (s : Step) (m : State σ) :
    Stretch S S.capture m (S.step s m).2.trace (S.step s m).1 := by
  rw [trace_step]
  exact stepWith_stretch S S.capture m s

/-- While the region is read, only what happens outside changes it, and nothing comes of any
call. -/
theorem withRegion_quiet (S : Scenario σ) (steps : List Step) (m : State σ) :
    (S.step (.withRegion steps) m).1.region =
        m.region.outsideAll (S.step (.withRegion steps) m).2.trace ∧
      ∀ o ∈ (S.step (.withRegion steps) m).2.trace, o.answer.Fruitless := by
  rw [trace_step, Region.outsideAll_append, Region.outsideAll_of_call _ rfl, step]
  simp only [List.forall_mem_append, List.forall_mem_singleton]
  rw [stepWith]
  cases hk : m.hold.share? with
  | none => exact ⟨rfl, by simp, trivial⟩
  | some hold =>
    have h := (stepsWith_stretch S S.capture { m with hold := hold } steps).kept
      (Hold.ne_free_of_share? hk)
    exact ⟨h.region, h.fruitless, trivial⟩

theorem run_cons (S : Scenario σ) (s : Step) (rest : List Step) (m : State σ) :
    S.run (s :: rest) m = ((S.run rest (S.step s m).1).1,
      (S.step s m).2 :: (S.run rest (S.step s m).1).2) := by
  simp only [run, stepsWith, step]

end FirmwareFirst.Scenario
