import FirmwareFirst.Proofs.Erasure
import FirmwareFirst.Proofs.SharedMemory

/-!
# Calls inside of captures

While an event is captured, the error source may be called again, by the event source itself or by
what interrupts it. All such calls are refused, none of them captures an event, and nothing but the
log tells whether they were made at all. When a call has returned, the error source is free again.
-/

namespace FirmwareFirst

open Outcome (traces)

/-! ## Calls that find the error source free -/

theorem Region.status_of_write_eq_error {r : Region} {sectionType : Guid} {report : Report Bytes}
    {e : CallError} (h : r.write sectionType report = some (.error e)) :
    e.status ≠ .accessDenied := by
  rw [write_eq] at h
  split at h
  · cases h
    decide
  · split at h
    · cases h
      decide
    · split at h <;> cases h

namespace ErrorSource

variable {κ ρ σ ω : Type} (E : ErrorSource κ ρ σ) {m : State σ}

theorem getDescriptors_of_free (hm : m.hold = .free) {buffer : Option Bytes}
    {length count : Option Nat} {e : CallError}
    (h : (E.getDescriptors m buffer length count).2.result = some (.error e)) :
    e.status ≠ .accessDenied := by
  unfold getDescriptors at h
  split at h
  · split at h
    · cases h
      decide
    · split at h
      · cases h
        decide
      · rw [if_neg (by simp [hm])] at h
        simp only [] at h
        split at h <;> cases h
  · cases h
    decide

theorem callInterface_of_free (hm : m.hold = .free) (c : InterfaceCall) :
    (E.callInterface m c).2.status ≠ some .accessDenied := by
  unfold callInterface
  split
  · exact show some Status.invalidParameter ≠ some .accessDenied by decide
  · show (E.getDescriptors m _ c.length c.count).2.result.map Status.ofResult ≠ some .accessDenied
    rcases hr : (E.getDescriptors m (c.buffer.join.map (·.take descriptorsLength)) c.length
        c.count).2.result with _ | e | ok
    · rw [hr]
      nofun
    · rw [hr]
      exact fun h => E.getDescriptors_of_free hm hr (Option.some.inj h)
    · rw [hr]
      exact show some Status.success ≠ some .accessDenied by decide

theorem descriptor_of_free (hm : m.hold = .free) : E.descriptor m ≠ .error .reentrant := by
  unfold descriptor State.view
  rw [hm]
  simp only []
  split <;> nofun

theorem accept_of_free (hm : m.hold = .free) (hidle : m.capturing = false) {buffer : Option Bytes}
    {size : Option Nat} {r : Rejection} (h : E.accept m buffer size = .error r) :
    r.error.status ≠ .accessDenied := by
  unfold accept at h
  split at h
  · split at h
    · cases h
      exact show Status.badBufferSize ≠ .accessDenied by decide
    · rw [if_neg (by simp [hm])] at h
      split at h
      · cases h
        exact show Status.notReady ≠ .accessDenied by decide
      · rw [if_neg (by simp [hidle])] at h
        cases h
  · cases h
    decide

/-- If nobody uses the error source, nothing but the capture itself can be refused. -/
theorem handleEvent_of_free
    {capture : Bytes → State σ → State σ × Except CallError (Report Bytes) × List ω}
    (hm : m.hold = .free) (hidle : m.capturing = false) {buffer : Option Bytes} {size : Option Nat}
    {e : CallError} (h : (E.handleEvent capture m buffer size).2.1.result = some (.error e))
    (he : e.status = .accessDenied) :
    ∃ event, E.accept m buffer size = .ok event ∧ (capture event m.lock).2.1 = .error e := by
  unfold handleEvent at h
  cases ha : E.accept m buffer size with
  | error r =>
    rw [ha] at h
    cases h
    exact (E.accept_of_free hm hidle ha he).elim
  | ok event =>
    refine ⟨event, rfl, ?_⟩
    rw [ha] at h
    rcases hc : capture event m.lock with ⟨captured, outcome, added⟩
    rcases hp : E.publish captured outcome with ⟨m', result⟩
    simp only [hc, hp] at h
    have hr : result = some (.error e) := by
      rcases result with _ | _ | _ <;> exact h
    subst hr
    rcases E.publish_cases hp with ⟨-, e', he', ho | ⟨report, -, hw⟩⟩ | ⟨-, -, -, -, -, hr⟩ |
      ⟨-, -, -, -, hr⟩
    · cases he'
      exact ho
    · cases he'
      exact (Region.status_of_write_eq_error hw he).elim
    · cases hr
    · cases hr

end ErrorSource

namespace Scenario

variable {σ : Type} {S : Scenario σ}

/-! ## Calls are refused -/

/-- What happens inside of a capture finds the region in use. -/
theorem Stretch.calm_inside {m n : State σ} {t : List Outcome} (h : S.Stretch S.capture m t n) :
    ∀ o ∈ t, o.step.event?.isSome = true → ∀ p ∈ traces o.inside, Calm S .exclusive p := by
  induction h with
  | stay => simp
  | join first rest ihf ihr => exact List.forall_mem_append.2 ⟨ihf, ihr⟩
  | say => simp
  | core => simp
  | @single m m' s a inside hs heq =>
    have hcalm : ∀ p ∈ traces inside, Calm S .exclusive p := by
      cases effect_of_eq hs heq with
      | @handled _ _ _ _ event _ _ _ _ _ messages he haccept hcap _ hpub ha =>
        exact (S.capture_discreet.kept hcap).calm
      | _ => simp
    refine List.forall_mem_append.2 ⟨fun o ho he => ?_, List.forall_mem_singleton.2 fun _ => hcalm⟩
    rw [(hcalm o ho).alone he]
    simp
  | region hshare happen hn ih =>
    exact List.forall_mem_append.2 ⟨ih, List.forall_mem_singleton.2 nofun⟩
  | refused => exact List.forall_mem_singleton.2 nofun
  | installed => exact List.forall_mem_singleton.2 nofun

/-! ## No event is captured -/

/-- While the region is in use, no call captures an event. -/
theorem stepWith_of_held (S : Scenario σ) (nested nested' : Capturing σ) {m : State σ}
    (hm : m.hold ≠ .free) {s : Step} (hs : s.isSingle = true) :
    S.stepWith nested' s m = S.stepWith nested s m := by
  have hrejected : ∀ buffer size, ∃ r, S.source.accept m buffer size = .error r := by
    intro buffer size
    cases ha : S.source.accept m buffer size with
    | error r => exact ⟨r, rfl⟩
    | ok event => exact (hm (S.source.of_accept ha).1).elim
  have hevent : ∀ buffer size,
      S.source.handleEvent nested' m buffer size = S.source.handleEvent nested m buffer size := by
    intro buffer size
    obtain ⟨r, hr⟩ := hrejected buffer size
    simp only [ErrorSource.handleEvent, hr]
  have hhandle : ∀ buffer size,
      S.source.handle nested' m buffer size = S.source.handle nested m buffer size := by
    intro buffer size
    simp only [ErrorSource.handle, hevent]
  cases s with
  | handleEvent buffer size => simp only [stepWith, hevent]
  | handle buffer size => simp only [stepWith, hhandle]
  | dispatch buffer size => simp only [stepWith, hhandle]
  | withRegion inside => cases hs
  | install replies onRegister onInstall onUnregister => cases hs
  | _ => rfl

/-- While the region is in use, it does not matter how events would be captured. -/
theorem simulation_of_held (S : Scenario σ) (nested nested' : Capturing σ) :
    Simulation S S nested nested' (fun m n => n = m ∧ m.hold ≠ .free) (fun os os' => os' = os) where
  config := rfl
  hold := fun ⟨h, _⟩ => by rw [h]
  region := fun ⟨h, _⟩ => by rw [h]
  say := fun ⟨h, hm⟩ messages => ⟨by rw [h], hm⟩
  core := fun ⟨h, hm⟩ c => ⟨by rw [h], hm⟩
  enter := fun ⟨h, hm⟩ _ hshare => ⟨by rw [h], Hold.ne_free_of_share? hshare⟩
  leave := fun ⟨_, hm⟩ ⟨h, _⟩ => ⟨by rw [h], hm⟩
  single := by
    rintro m n ⟨rfl, hm⟩ s hs
    rw [S.stepWith_of_held nested nested' hm hs]
    have hhold : (S.stepWith nested s n).1.hold = n.hold :=
      ((Stretch.single hs rfl).hold_of_held hm).1
    exact ⟨⟨rfl, by rwa [hhold]⟩, rfl, fun _ _ => rfl⟩
  nil := rfl
  append := fun h h' => by rw [h, h']
  wrap := fun h s a after => by rw [h]

theorem interrupt_congr (S : Scenario σ) (nested nested' : Capturing σ) {m : State σ}
    (hm : m.hold ≠ .free) (bus : Bus) : S.interrupt nested' m bus = S.interrupt nested m bus := by
  cases bus with
  | bank =>
    obtain ⟨⟨hm', -⟩, hos⟩ := (S.simulation_of_held nested nested').steps ⟨rfl, hm⟩
      (S.interrupts m.platform.accesses.length)
    exact Prod.ext hm' hos
  | device => rfl

theorem stepWith_congr (S : Scenario σ) (nested nested' : Capturing σ) {m : State σ}
    (hm : m.hold ≠ .free) (s : Step) : S.stepWith nested' s m = S.stepWith nested s m := by
  obtain ⟨⟨hm', -⟩, ha, hos⟩ := (S.simulation_of_held nested nested').step ⟨rfl, hm⟩ s
  have hinside := hos .done (.error .reentrant)
  simp only [List.cons.injEq, Outcome.mk.injEq, true_and, and_true] at hinside
  exact Prod.ext hm' (Prod.ext ha hinside)

/-- **A capture is the same whatever captures inside of it would do.** -/
theorem perform_congr (S : Scenario σ) (nested nested' : Capturing σ) (c : Capture Step Answer σ)
    {m : State σ} (hm : m.hold ≠ .free) : S.perform nested' c m = S.perform nested c m := by
  induction c generalizing m with
  | finish inner outcome => rfl
  | log message next ih =>
    rw [perform, perform]
    exact ih hm
  | record access next ih =>
    rw [perform, perform]
    exact ih hm
  | load bus address next ih =>
    have hheld : (S.interrupt nested m bus).1.hold ≠ .free := by
      rwa [(S.interrupt_kept nested hm bus).hold]
    rw [perform, perform, S.interrupt_congr nested nested' hm bus]
    rcases hi : S.interrupt nested m bus with ⟨m₁, first⟩
    rw [hi] at hheld
    simp only []
    rw [ih _ (m := { m₁ with platform := m₁.platform.load bus address }) hheld]
  | store bus address value next ih =>
    have hheld : (S.interrupt nested m bus).1.hold ≠ .free := by
      rwa [(S.interrupt_kept nested hm bus).hold]
    rw [perform, perform, S.interrupt_congr nested nested' hm bus]
    rcases hi : S.interrupt nested m bus with ⟨m₁, first⟩
    rw [hi] at hheld
    simp only []
    rw [ih (m := { m₁ with platform := m₁.platform.store bus address value }) hheld]
  | call request next ih =>
    have hheld : (S.stepWith nested request m).1.hold ≠ .free := by
      rwa [((stepWith_stretch S nested m request).hold_of_held hm).1]
    rw [perform, perform, S.stepWith_congr nested nested' hm request]
    rcases hi : S.stepWith nested request m with ⟨m₁, a, inside⟩
    rw [hi] at hheld
    simp only []
    rw [ih _ (m := m₁) hheld]

/-! ## The error source is free again -/

/-- If nobody uses the error source, a call is refused only if it captures an event and the capture
itself fails so. -/
theorem reentrant_of_free (S : Scenario σ) (capture : Capturing σ) {m : State σ}
    (hm : m.hold = .free) (hidle : m.capturing = false) {s : Step}
    (h : (S.stepWith capture s m).2.1.Reentrant) :
    ∃ buffer size event e, s.event? = some (buffer, size) ∧
      S.source.accept m buffer size = .ok event ∧ (capture event m.lock).2.1 = .error e ∧
      (S.stepWith capture s m).2.1.Gives (some (.error e)) := by
  have hhandle : ∀ {buffer : Option Bytes} {size : Option Nat},
      (S.source.handle capture m buffer size).2.1.status = some .accessDenied →
      ∃ event e, S.source.accept m buffer size = .ok event ∧
        (capture event m.lock).2.1 = .error e ∧
        (S.source.handle capture m buffer size).2.1.status = some (.ofResult (.error e)) := by
    intro buffer size h
    have hs : (S.source.handle capture m buffer size).2.1.status =
        (S.source.handleEvent capture m buffer size).2.1.result.map .ofResult := rfl
    rw [hs] at h
    rcases hr : (S.source.handleEvent capture m buffer size).2.1.result with _ | e | ok
    · rw [hr] at h
      cases h
    · rw [hr] at h
      obtain ⟨event, ha, hc⟩ := S.source.handleEvent_of_free hm hidle hr (Option.some.inj h)
      exact ⟨event, e, ha, hc, by rw [hs, hr]; rfl⟩
    · rw [hr] at h
      cases h
  cases s with
  | getDescriptors buffer length count => exact (S.source.getDescriptors_of_free hm h rfl).elim
  | descriptor => exact (S.source.descriptor_of_free hm h).elim
  | handleEvent buffer size =>
    obtain ⟨event, ha, hc⟩ := S.source.handleEvent_of_free hm hidle h rfl
    exact ⟨buffer, size, event, .reentrant, rfl, ha, hc, h⟩
  | handle buffer size =>
    obtain ⟨event, e, ha, hc, hs⟩ := hhandle h
    exact ⟨buffer, size, event, e, rfl, ha, hc, hs⟩
  | dispatch buffer size =>
    simp only [stepWith] at h ⊢
    split at h
    · rename_i hcore
      obtain ⟨event, e, ha, hc, hs⟩ := hhandle h
      rw [if_pos hcore]
      exact ⟨buffer, size, event, e, rfl, ha, hc, hs⟩
    · exact h.elim
  | callInterface call =>
    simp only [stepWith] at h
    split at h
    · exact (S.source.callInterface_of_free hm call h).elim
    · exact h.elim
  | withRegion inside =>
    rw [stepWith, hm] at h
    cases h
  | config => exact h.elim
  | install replies onRegister onInstall onUnregister => exact h.elim
  | outside e => exact h.elim

/-- **Calls that come in while an event is captured do no harm**, in any run from the start of a
source. Those that ask for the region are refused, none of them captures an event, and it would not
matter how they captured one. Where captures go on without their calls as they do with them, as
those of the sources at hand do, what can be seen of the run and the state it ends in are the same
without any such calls, but for the log. When a call is over nobody uses the error source, so that
the next one is refused only if its own capture fails so; only a call that never returns keeps it,
and where all lengths can be counted there is none. -/
theorem nested_calls_harmless (S : Scenario σ) {region : Region} {platform : Platform}
    {m : State σ} (hstart : S.source.start region platform = .ok m) (steps : List Step) :
    (∀ o ∈ traces (S.run steps m).2, o.step.event?.isSome = true → ∀ p ∈ traces o.inside,
      (p.step.reaches S.source.source.eventSize = true →
        p.answer.Reentrant ∨ p.step.Unheard p.answer) ∧
      (p.step.event?.isSome = true → p.inside = [])) ∧
    (∀ (nested : Capturing σ) (event : Bytes) (k : State σ),
      S.perform nested (S.source.source.capture k.inner event) k.lock =
        S.capture event k.lock) ∧
    (∀ {Inner : σ → σ → Prop} {captures : σ → Bytes → Capture Step Answer σ},
      Inner m.inner m.inner →
      (∀ {inner inner' : σ}, Inner inner inner' → ∀ event,
        (S.source.source.capture inner event).Erases Inner (captures inner' event)) →
      (S.run steps m).1.Alike Inner ((S.withoutCalls captures).run steps m).1 ∧
        Outcome.surfaces ((S.withoutCalls captures).run steps m).2 =
          Outcome.surfaces (S.run steps m).2) ∧
    (∀ bus config event, (captureRam bus config event : Capture Step Answer Unit).Erases Eq
      (captureRam bus config event)) ∧
    (∀ event, (captureProcessor event : Capture Step Answer Unit).Erases Eq
      (captureProcessor event)) ∧
    (Addressable region.maxSection → ∀ o ∈ traces (S.run steps m).2, o.returns = true) ∧
    ((∀ o ∈ traces (S.run steps m).2, o.returns = true) →
      (S.run steps m).1.hold = .free ∧ (S.run steps m).1.capturing = false ∧
      ∀ s, (S.step s (S.run steps m).1).2.answer.Reentrant →
        ∃ buffer size event e, s.event? = some (buffer, size) ∧
          S.source.accept (S.run steps m).1 buffer size = .ok event ∧
          (S.capture event (S.run steps m).1.lock).2.1 = .error e ∧
          (S.step s (S.run steps m).1).2.answer.Gives (some (.error e))) := by
  obtain ⟨-, hregion, -, hfree, hidle⟩ := ErrorSource.of_start hstart
  have hrun : S.Stretch S.capture m (traces (S.run steps m).2) (S.run steps m).1 :=
    stepsWith_stretch S S.capture m steps
  refine ⟨?_, ?_, ?_, captureRam_erases, captureProcessor_erases, ?_, ?_⟩
  · intro o ho he p hp
    have hcalm := hrun.calm_inside o ho he p hp
    exact ⟨hcalm.refused rfl, hcalm.alone⟩
  · intro nested event k
    have hlocked : k.lock.hold ≠ .free := by simp [State.lock]
    exact S.perform_congr noCapture nested _ hlocked
  · intro Inner captures hinner herases
    exact S.run_alike captures herases (.refl hinner) steps
  · intro hlayout
    exact hrun.returns_of_addressable S.capture_discreet (by rwa [hregion])
  · intro hreturns
    have hall := List.all_eq_true.2 hreturns
    obtain ⟨hhold, hcapturing⟩ := hrun.hold_eq S.capture_discreet
    rw [if_pos hall, hfree] at hhold
    have hquiet := (hcapturing hall).trans hidle
    exact ⟨hhold, hquiet, fun s hs => S.reentrant_of_free S.capture hhold hquiet hs⟩

end Scenario

/-- While the sample source captures an event it asks for its descriptors. If it did not, the run
would end with the same memory. -/
theorem nested_calls_harmless_sample :
    (Sample.scenario.run Sample.steps Sample.start).1.hold = .free ∧
    ((Sample.scenario.withoutCalls
        (playCapture [⟨[], .ok ⟨⟨.corrected, .empty, 0⟩, [1, 2, 3]⟩⟩])).run
      Sample.steps Sample.start).1.region.memory =
        (Sample.scenario.run Sample.steps Sample.start).1.region.memory := by
  have hstart : Sample.scenario.source.start Sample.region Sample.platform = .ok Sample.start := rfl
  have herases : ∀ {i j : Nat}, i = j → ∀ event,
      (Sample.scenario.source.source.capture i event).Erases Eq
        (playCapture [⟨[], .ok ⟨⟨.corrected, .empty, 0⟩, [1, 2, 3]⟩⟩] j event) := by
    rintro i _ rfl event
    exact playCapture_erases _ i event
  obtain ⟨-, -, hsame, -, -, hreturns, hfree⟩ :=
    Scenario.nested_calls_harmless Sample.scenario hstart Sample.steps
  obtain ⟨halike, -⟩ := hsame rfl herases
  exact ⟨(hfree (hreturns (by decide))).1, by rw [halike.region_eq]⟩

end FirmwareFirst
