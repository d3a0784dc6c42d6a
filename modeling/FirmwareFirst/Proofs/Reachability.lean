import FirmwareFirst.Proofs.Installations
import FirmwareFirst.Proofs.Reentrancy

/-!
# Reachable states

A step of a run may come about at the top, while the region is read, during a request to the
firmware core or while an event is captured. `Scenario.Reachable` says in which states that may be,
and in which `Place`: whether the region is in use there, if only by a call that never returned, and
whether descriptors were handed out before. `run_arises` says that no step of a run comes about in
any other state. What holds of all reachable states is therefore what a caller can rely on, wherever
the call is made from (`Reachable.sound`).
-/

namespace FirmwareFirst

/-! ## New error sources -/

namespace ErrorSource

variable {κ ρ σ : Type} {E : ErrorSource κ ρ σ} {m : State σ}

/-- A new error source finds itself in the state `m`, be its region given or be it in the memory
that its configuration names. -/
def Starts (E : ErrorSource κ ρ σ) (m : State σ) : Prop :=
  ∃ platform, (∃ region, E.start region platform = .ok m) ∨
    ∃ physical, E.startReserved physical platform = .ok m

theorem Starts.of_start (h : E.Starts m) :
    ∃ region platform, E.start region platform = .ok m := by
  obtain ⟨platform, ⟨region, h⟩ | ⟨physical, h⟩⟩ := h
  · exact ⟨region, platform, h⟩
  · unfold startReserved at h
    split at h
    · cases h
    · exact ⟨_, platform, h⟩

/-- A new error source has room for its sections, and nobody uses it. -/
theorem Starts.idle (h : E.Starts m) :
    E.source.maxSection ≤ m.region.maxSection ∧ m.hold = .free ∧ m.capturing = false := by
  obtain ⟨region, platform, h⟩ := h.of_start
  obtain ⟨hmax, hregion, -, hfree, hidle⟩ := ErrorSource.of_start h
  exact ⟨by rw [hregion]; exact hmax, hfree, hidle⟩

end ErrorSource

/-! ## Where steps come about -/

/-- The region is in use while the step's inner steps come about. -/
def Step.usesRegion : Step → Bool
  | .withRegion _ => true
  | s => s.event?.isSome

/-- Where in a run a step comes about. -/
structure Place where
  /-- The region is in use. -/
  inUse : Bool
  /-- Descriptors were handed out before. -/
  published : Bool

namespace Place

open Outcome (traces)

/-- Where a run starts. -/
def top : Place := ⟨false, false⟩

/-- Where the region is in use. -/
def held (p : Place) : Place := { p with inUse := true }

/-- Where the steps inside of a step come about. -/
def within (p : Place) (s : Step) : Place := { p with inUse := p.inUse || s.usesRegion }

/-- Where the step behind some outcomes comes about. A call that never returned uses the region. -/
def behind (p : Place) (os : List Outcome) : Place where
  inUse := p.inUse || !(traces os).all Outcome.returns
  published := p.published || (traces os).any Outcome.publishes

@[simp] theorem behind_nil (p : Place) : p.behind [] = p := by
  simp [behind]

@[simp] theorem behind_append (p : Place) (os ps : List Outcome) :
    p.behind (os ++ ps) = (p.behind os).behind ps := by
  simp [behind, Bool.or_assoc, Bool.not_and]

theorem within_eq_held (p : Place) {s : Step} (h : s.usesRegion = true) :
    p.within s = p.held := by
  simp [within, held, h]

theorem within_eq_self (p : Place) {s : Step} (h : s.usesRegion = false) : p.within s = p := by
  simp [within, h]

end Place

namespace Outcome

mutual

/-- The trace of an outcome whose step comes about in a place, with the place of each step. -/
def placed (p : Place) : Outcome → List (Place × Outcome)
  | mk s a inside after => placedAll (p.within s) inside ++ [(p, mk s a inside after)]

/-- The traces of some outcomes, one behind another, with the place of each step. -/
def placedAll (p : Place) : List Outcome → List (Place × Outcome)
  | [] => []
  | o :: os => o.placed p ++ placedAll (p.behind [o]) os

end

@[simp] theorem placedAll_nil (p : Place) : placedAll p [] = [] := by
  rw [placedAll]

theorem placedAll_cons (p : Place) (s : Step) (a : Answer) (inside : List Outcome)
    (after : Except CallError Region) (os : List Outcome) :
    placedAll p (mk s a inside after :: os) =
      placedAll (p.within s) inside ++ (p, mk s a inside after) ::
        placedAll (p.behind [mk s a inside after]) os := by
  rw [placedAll, placed, List.append_assoc, List.singleton_append]

@[simp] theorem placedAll_append (p : Place) (os ps : List Outcome) :
    placedAll p (os ++ ps) = placedAll p os ++ placedAll (p.behind os) ps := by
  induction os generalizing p with
  | nil => simp
  | cons o os ih =>
    have hbehind : p.behind (o :: os) = (p.behind [o]).behind os := p.behind_append [o] os
    rw [List.cons_append, placedAll, placedAll, ih, hbehind, List.append_assoc]

mutual

theorem map_placed (p : Place) : (o : Outcome) → (o.placed p).map Prod.snd = o.trace
  | mk s a inside after => by
    rw [placed, List.map_append, map_placedAll, trace]
    rfl

/-- Every outcome of the traces has its place. -/
theorem map_placedAll (p : Place) : (os : List Outcome) →
    (placedAll p os).map Prod.snd = traces os
  | [] => by simp
  | o :: os => by rw [placedAll, List.map_append, map_placed, map_placedAll, traces]

end

end Outcome

namespace Scenario

open Outcome (placedAll traces)

/-- A region is prepared when descriptors are handed out, and by nothing else. -/
theorem Stretch.prepared_eq {σ : Type} {S : Scenario σ} {capture : Capturing σ}
    (hcapture : Discreet S capture) {m n : State σ} {t : List Outcome}
    (h : S.Stretch capture m t n) :
    n.region.prepared = (m.region.prepared || t.any Outcome.publishes) := by
  have hquiet : ∀ {r : Region} {o : Outcome}, o.publishes = false →
      r.prepared = (r.prepared || [o].any Outcome.publishes) := by
    intro r o ho
    simp [ho]
  induction h with
  | stay => simp
  | join first rest ihf ihr => rw [ihr, ihf, List.any_append, Bool.or_assoc]
  | say => simp
  | core => simp
  | @single m m' s a inside hs heq =>
    cases effect_of_eq hs heq with
    | idle messages hne hr ha => exact hquiet (Outcome.publishes_of_fruitless ha)
    | published messages hfree hready hne hr hp hd =>
      simp [hp, Region.prepared_prepare hready]
    | stuck hfree hstuck hne hr ha =>
      rw [(Region.prepare_of_stuck hstuck).2.2]
      exact hquiet (Outcome.publishes_of_stuck ha)
    | @handled _ _ _ _ event captured _ outcome _ _ messages he haccept hcap hr hpub ha =>
      -- Both are prepared, since the event was accepted.
      have hcaptured := hcapture.prepared haccept hcap
      have hprepared := (S.source.of_accept haccept).2.1
      rw [hprepared, Bool.true_or]
      rw [State.region_say, State.region_settle]
      cases outcome with
      | error e =>
        cases hpub
        exact hcaptured
      | ok report =>
        have hregion := S.source.region_publish captured report
        rw [hpub] at hregion
        rw [hregion]
        exact Region.publish_kept (I := fun r => r.prepared = true) (fun _ _ _ h => h) hcaptured _ _
    | outside e he =>
      rw [he, State.region_outside, Region.prepared_outside]
      exact hquiet rfl
  | region hshare happen hn ih =>
    subst hn
    rw [List.any_append, ← Bool.or_assoc, ← ih]
    exact hquiet rfl
  | refused => exact hquiet rfl
  | installed => exact hquiet rfl

variable {σ : Type} {S : Scenario σ} {m₀ m : State σ} {p : Place}

/-- The states in which a step may come about once the source is in the state `m₀`, with the place.
What the firmware core remembers, the hardware and the log are left open where a step comes about in
the middle of another one. -/
inductive Reachable (S : Scenario σ) (m₀ : State σ) : Place → State σ → Prop where
  | start : Reachable S m₀ .top m₀
  /-- A step is over. -/
  | step {p : Place} {m : State σ} (h : Reachable S m₀ p m) (s : Step) :
      Reachable S m₀ (p.behind [(S.step s m).2]) (S.step s m).1
  /-- A request to the firmware core is under way. -/
  | core {p : Place} {m : State σ} (h : Reachable S m₀ p m) (c : CoreRecord) :
      Reachable S m₀ p { m with core := c }
  /-- Something is logged, or a register is accessed. -/
  | platform {p : Place} {m : State σ} (h : Reachable S m₀ p m) (platform : Platform) :
      Reachable S m₀ p { m with platform := platform }
  /-- The region is read. -/
  | reading {p : Place} {m : State σ} {hold : Hold} (h : Reachable S m₀ p m)
      (hshare : m.hold.share? = some hold) : Reachable S m₀ p.held { m with hold := hold }
  /-- An event is captured. -/
  | capturing {p : Place} {m : State σ} {buffer : Option Bytes} {size : Option Nat}
      {event : Bytes} (h : Reachable S m₀ p m)
      (haccept : S.source.accept m buffer size = .ok event) : Reachable S m₀ p.held m.lock

namespace Reachable

/-- What can be relied on in a reachable state. -/
structure Sound (m₀ : State σ) (p : Place) (m : State σ) : Prop where
  inUse : p.inUse = true ↔ m.hold ≠ .free
  capturing : m.capturing = true → m.hold = .exclusive
  maxSection : m.region.maxSection = m₀.region.maxSection
  length : m.region.memory.length = m₀.region.memory.length
  prepared : m.region.prepared = (m₀.region.prepared || p.published)

theorem Sound.free (h : Sound m₀ p m) (hp : p.inUse = false) : m.hold = .free := by
  by_contra hheld
  rw [h.inUse.2 hheld] at hp
  cases hp

theorem Sound.quiet (h : Sound m₀ p m) (hm : m.hold = .free) : m.capturing = false := by
  by_contra hbusy
  have hexclusive := h.capturing (by simpa using hbusy)
  rw [hm] at hexclusive
  cases hexclusive

/-- **What can be relied on.** The region is held while it is in use and at no other time, nobody
captures an event without holding it, it stays as it was laid out and as large as it was, and it is
prepared if it was at the start or descriptors were handed out since. -/
theorem sound (hfree : m₀.hold = .free) (hidle : m₀.capturing = false)
    (h : S.Reachable m₀ p m) : Sound m₀ p m := by
  induction h with
  | start => exact ⟨by simp [hfree, Place.top], by simp [hidle], rfl, rfl, by simp [Place.top]⟩
  | @step p m h s ih =>
    have hstretch := S.step_stretch s m
    obtain ⟨hhold, hcapturing⟩ := hstretch.hold_eq S.capture_discreet
    have hplace : (p.behind [(S.step s m).2]).inUse =
        (p.inUse || !(S.step s m).2.trace.all Outcome.returns) := by
      simp [Place.behind, Outcome.traces_cons]
    refine ⟨?_, ?_, ?_, ?_, ?_⟩
    · rw [hplace, hhold]
      cases hall : (S.step s m).2.trace.all Outcome.returns with
      | true => simpa using ih.inUse
      | false => simp
    · rw [hhold]
      cases hall : (S.step s m).2.trace.all Outcome.returns with
      | true =>
        rw [hcapturing hall]
        exact ih.capturing
      | false => simp
    · rw [hstretch.maxSection_eq S.capture_discreet, ih.maxSection]
    · rw [hstretch.length_eq S.capture_discreet, ih.length]
    · rw [hstretch.prepared_eq S.capture_discreet, ih.prepared, Bool.or_assoc]
      simp [Place.behind, Outcome.traces_cons]
  | core h c ih => exact ⟨ih.inUse, ih.capturing, ih.maxSection, ih.length, ih.prepared⟩
  | platform h platform ih => exact ⟨ih.inUse, ih.capturing, ih.maxSection, ih.length, ih.prepared⟩
  | reading h hshare ih =>
    refine ⟨by simp [Place.held, Hold.ne_free_of_share? hshare], fun hc => ?_, ih.maxSection,
      ih.length, ih.prepared⟩
    rw [ih.capturing hc] at hshare
    cases hshare
  | capturing h haccept ih =>
    exact ⟨by simp [Place.held, State.lock], fun _ => rfl, ih.maxSection, ih.length, ih.prepared⟩

end Reachable

/-! ## All steps of a run -/

/-- The outcome is that of its step in some state that is reachable in its place. -/
def Arises (S : Scenario σ) (m₀ : State σ) (o : Place × Outcome) : Prop :=
  ∃ m, S.Reachable m₀ o.1 m ∧ o.2.answer = (S.step o.2.step m).2.answer

/-- The state behind some outcomes is reachable, and so are those in which their steps came
about. -/
structure Reaches (S : Scenario σ) (m₀ : State σ) (p : Place) (m : State σ)
    (os : List Outcome) : Prop where
  reachable : S.Reachable m₀ (p.behind os) m
  arises : ∀ o ∈ placedAll p os, S.Arises m₀ o

theorem Reaches.nil (h : S.Reachable m₀ p m) : S.Reaches m₀ p m [] :=
  ⟨by rwa [Place.behind_nil], by simp⟩

/-- All that happens while events are captured comes about in reachable states. -/
def CapturesArise (S : Scenario σ) (m₀ : State σ) : Prop :=
  ∀ {p : Place} {m : State σ} {buffer : Option Bytes} {size : Option Nat} {event : Bytes},
    S.Reachable m₀ p m → S.source.accept m buffer size = .ok event →
      ∀ o ∈ placedAll p.held (S.capture event m.lock).2.2, S.Arises m₀ o

theorem handleEvent_arises (hm : m.hold ≠ .free ∨ S.CapturesArise m₀)
    (h : S.Reachable m₀ p m) (buffer : Option Bytes) (size : Option Nat) :
    ∀ o ∈ placedAll p.held (S.source.handleEvent S.capture m buffer size).2.2,
      S.Arises m₀ o := by
  rcases handleEvent_effect (S := S) S.capture m buffer size with
    ⟨messages, e, size', -, -, heq⟩ |
    ⟨event, captured, outcome, inside, m', result, size', haccept, hcap, -, -, heq⟩
  · rw [heq]
    simp
  · rw [heq]
    rcases hm with hm | hcaptures
    · exact (hm (S.source.of_accept haccept).1).elim
    · have harise := hcaptures h haccept
      rwa [hcap] at harise

/-- What is to be shown of what happens during a request: it comes about in reachable states. -/
def HappensReachably (S : Scenario σ) (m₀ : State σ)
    (happen : State σ → State σ × List Outcome) : Prop :=
  ∀ (p : Place) (n : State σ), n.hold ≠ .free ∨ S.CapturesArise m₀ → S.Reachable m₀ p n →
    ((happen n).1.hold ≠ .free ∨ S.CapturesArise m₀) ∧
      S.Reaches m₀ p (happen n).1 (happen n).2

/-- An installation goes through reachable states if the steps do that happen during its
requests. -/
theorem install_reaches {onRegister onInstall onUnregister : State σ → State σ × List Outcome}
    (hregister : S.HappensReachably m₀ onRegister) (hinstall : S.HappensReachably m₀ onInstall)
    (hunregister : S.HappensReachably m₀ onUnregister) (replies : CoreReplies)
    (hm : m.hold ≠ .free ∨ S.CapturesArise m₀) (h : S.Reachable m₀ p m) :
    S.Reaches m₀ p
      (installSource (Installing.services replies onRegister onInstall onUnregister)
        S.source.config ⟨m, [], []⟩).1.state
      (installSource (Installing.services replies onRegister onInstall onUnregister)
        S.source.config ⟨m, [], []⟩).1.inside := by
  have hrequest : ∀ {happen : State σ → State σ × List Outcome},
      S.HappensReachably m₀ happen → ∀ call core (w : Installing σ),
      (w.state.hold ≠ .free ∨ S.CapturesArise m₀) ∧ S.Reaches m₀ p w.state w.inside →
      ((w.request call core happen).state.hold ≠ .free ∨ S.CapturesArise m₀) ∧
        S.Reaches m₀ p (w.request call core happen).state
          (w.request call core happen).inside := by
    rintro happen hhappen call core w ⟨hheld, hreach, harise⟩
    obtain ⟨hheld', hreach', harise'⟩ := hhappen _ { w.state with core := core w.state.core }
      hheld (hreach.core _)
    refine ⟨hheld', ?_, ?_⟩
    · simp only [Installing.request, Place.behind_append]
      exact hreach'
    · simp only [Installing.request, Outcome.placedAll_append]
      exact List.forall_mem_append.2 ⟨harise, harise'⟩
  refine (install_kept (I := fun w => (w.state.hold ≠ .free ∨ S.CapturesArise m₀) ∧
    S.Reaches m₀ p w.state w.inside) (hrequest hregister) (hrequest hinstall)
    (hrequest hunregister) ?_ ?_ _ ⟨hm, .nil h⟩).2
  · rintro core w ⟨hheld, hreach, harise⟩
    exact ⟨hheld, hreach.core core, harise⟩
  · rintro messages w ⟨hheld, hreach, harise⟩
    exact ⟨hheld, hreach.platform _, harise⟩

mutual

/-- While a step happens, its inner steps come about in reachable states. -/
theorem stepWith_arises {p : Place} {m : State σ} (hm : m.hold ≠ .free ∨ S.CapturesArise m₀)
    (h : S.Reachable m₀ p m) : (s : Step) →
    ∀ o ∈ placedAll (p.within s) (S.stepWith S.capture s m).2.2, S.Arises m₀ o
  | .withRegion inside => by
    rw [stepWith, p.within_eq_held rfl]
    cases hk : m.hold.share? with
    | none => simp
    | some hold =>
      exact (stepsWith_arises (.inl (Hold.ne_free_of_share? hk)) (h.reading hk) inside).arises
  | .install replies onRegister onInstall onUnregister => by
    rw [p.within_eq_self rfl, stepWith]
    refine (install_reaches ?_ ?_ ?_ replies hm h).arises
    · intro p n hn hr
      exact ⟨hn.imp_left (stepsWith_stretch S S.capture n onRegister).held,
        stepsWith_arises hn hr onRegister⟩
    · intro p n hn hr
      exact ⟨hn.imp_left (stepsWith_stretch S S.capture n onInstall).held,
        stepsWith_arises hn hr onInstall⟩
    · intro p n hn hr
      exact ⟨hn.imp_left (stepsWith_stretch S S.capture n onUnregister).held,
        stepsWith_arises hn hr onUnregister⟩
  | .handleEvent buffer size => by
    rw [p.within_eq_held rfl]
    exact handleEvent_arises hm h buffer size
  | .handle buffer size => by
    rw [p.within_eq_held rfl]
    exact handleEvent_arises hm h buffer size
  | .dispatch buffer size => by
    rw [p.within_eq_held rfl, stepWith]
    split
    · exact handleEvent_arises hm h buffer size
    · simp
  | .getDescriptors buffer length count => by simp [stepWith]
  | .descriptor => by simp [stepWith]
  | .callInterface call => by
    rw [stepWith]
    split <;> simp
  | .config => by simp [stepWith]
  | .outside event => by simp [stepWith]

/-- Steps come about in reachable states. -/
theorem stepsWith_arises {p : Place} {m : State σ} (hm : m.hold ≠ .free ∨ S.CapturesArise m₀)
    (h : S.Reachable m₀ p m) : (steps : List Step) →
    S.Reaches m₀ p (S.stepsWith S.capture steps m).1 (S.stepsWith S.capture steps m).2
  | [] => by
    rw [stepsWith]
    exact .nil h
  | s :: rest => by
    have hinside := stepWith_arises hm h s
    obtain ⟨hreach, harise⟩ :=
      stepsWith_arises (hm.imp_left (S.step_stretch s m).held) (h.step s) rest
    rw [← Place.behind_append] at hreach
    rw [stepsWith]
    refine ⟨hreach, ?_⟩
    simp only [Outcome.placedAll_cons]
    exact List.forall_mem_append.2 ⟨hinside, List.forall_mem_cons.2 ⟨⟨m, h, rfl⟩, harise⟩⟩

end

theorem interrupt_arises (hm : m.hold ≠ .free) (h : S.Reachable m₀ p m) (bus : Bus) :
    S.Reaches m₀ p (S.interrupt S.capture m bus).1 (S.interrupt S.capture m bus).2 := by
  cases bus with
  | bank => exact stepsWith_arises (.inl hm) h _
  | device => exact .nil h

/-- What happens during a capture comes about in reachable states. -/
theorem perform_arises (c : Capture Step Answer σ) (hm : m.hold ≠ .free)
    (h : S.Reachable m₀ p m) :
    ∀ o ∈ placedAll p (S.perform S.capture c m).2.2, S.Arises m₀ o := by
  induction c generalizing m p with
  | finish inner outcome => simp [perform]
  | log message next ih =>
    rw [perform]
    exact ih hm (h.platform _)
  | record access next ih =>
    rw [perform]
    exact ih hm (h.platform _)
  | load bus address next ih =>
    obtain ⟨hreach, harise⟩ := interrupt_arises hm h bus
    have hhold := (S.interrupt_kept S.capture hm bus).hold
    rw [perform]
    simp only [Outcome.placedAll_append]
    exact List.forall_mem_append.2 ⟨harise, ih _ (by rwa [hhold]) (hreach.platform _)⟩
  | store bus address value next ih =>
    obtain ⟨hreach, harise⟩ := interrupt_arises hm h bus
    have hhold := (S.interrupt_kept S.capture hm bus).hold
    rw [perform]
    simp only [Outcome.placedAll_append]
    exact List.forall_mem_append.2 ⟨harise, ih (by rwa [hhold]) (hreach.platform _)⟩
  | call request next ih =>
    rw [perform]
    simp only [Outcome.placedAll_cons]
    refine List.forall_mem_append.2 ⟨stepWith_arises (.inl hm) h request,
      List.forall_mem_cons.2 ⟨⟨m, h, rfl⟩, ?_⟩⟩
    exact ih _ ((S.step_stretch request m).held hm) (h.step request)

theorem captures_arise (S : Scenario σ) (m₀ : State σ) : S.CapturesArise m₀ := by
  intro p m buffer size event h haccept
  have hlocked : m.lock.hold ≠ .free := by simp [State.lock]
  rw [capture, ← S.perform_congr noCapture S.capture _ hlocked]
  exact perform_arises _ hlocked (h.capturing haccept)

/-- Where a run ends that starts in a reachable state. -/
theorem Reachable.run (h : S.Reachable m₀ p m) (steps : List Step) :
    S.Reachable m₀ (p.behind (S.run steps m).2) (S.run steps m).1 :=
  (stepsWith_arises (.inr (S.captures_arise m₀)) h steps).reachable

/-- **All steps of a run come about in reachable states**, those that happen inside of other steps
included. -/
theorem run_arises (S : Scenario σ) (m₀ : State σ) (steps : List Step) :
    ∀ o ∈ placedAll .top (S.run steps m₀).2, S.Arises m₀ o :=
  (stepsWith_arises (.inr (S.captures_arise m₀)) .start steps).arises

end Scenario
end FirmwareFirst
