import FirmwareFirst.Proofs.Atomicity
import FirmwareFirst.Proofs.Bits

/-!
# What the firmware core is told of an event

The handler of the firmware core answers a status, and the core takes success for an event of which
a report was published. Every error that the library raises itself is handed over as an error
status. A capture may also fail with a status of the core, and that one is handed over as it is:
`handler_reports_outcome` says what can be relied on, and `silent_failure` shows a capture that
fails with the status of success.
-/

namespace FirmwareFirst

open Outcome (traces)

/-! ## Error statuses -/

/-- Of its two top bits, an error status has the upper one set and the other one clear. -/
theorem Status.isError_iff (s : Status) :
    s.isError = true ↔ s.raw.toNat.testBit 63 = true ∧ s.raw.toNat.testBit 62 = false := by
  have hmask : ∀ i < 64, (0xc000000000000000 : UInt64).toNat.testBit i = decide (62 ≤ i) := by
    decide
  have herror : ∀ i < 64, (0x8000000000000000 : UInt64).toNat.testBit i = decide (i = 63) := by
    decide
  rw [isError, beq_iff_eq]
  constructor
  · intro h
    have hbit : ∀ i < 64, (s.raw.toNat.testBit i && decide (62 ≤ i)) = decide (i = 63) := by
      intro i hi
      rw [← hmask i hi, ← testBit_and, h, herror i hi]
    exact ⟨by simpa using hbit 63, by simpa using hbit 62⟩
  · rintro ⟨htop, hnext⟩
    apply eq_of_testBit
    intro i hi
    rw [testBit_and, hmask i hi, herror i hi]
    obtain h | rfl | rfl : i < 62 ∨ i = 62 ∨ i = 63 := by omega
    · simp [show ¬ 62 ≤ i by omega, show i ≠ 63 by omega]
    · simp [hnext]
    · simp [htop]

theorem Status.isError_success : success.isError = false := rfl

/-- An error is handed over as an error status, unless it is a status of the core that is none. -/
theorem CallError.isError_status_iff (e : CallError) :
    e.status.isError = true ↔ ∀ s, e = .core s → s.isError = true := by
  cases e with
  | core s => simp [CallError.status]
  | _ => exact iff_of_true rfl nofun

theorem CallError.status_eq_success_iff (e : CallError) :
    e.status = .success ↔ e = .core .success := by
  cases e with
  | core s => simp [CallError.status]
  | _ => exact iff_of_false (by decide) nofun

namespace ErrorSource

variable {κ ρ σ : Type} (E : ErrorSource κ ρ σ)

/-- No event is turned down with a status of the core. -/
theorem ne_core_of_accept {m : State σ} {buffer : Option Bytes} {size : Option Nat} {r : Rejection}
    (h : E.accept m buffer size = .error r) (s : Status) : r.error ≠ .core s := by
  unfold accept at h
  repeat' split at h
  all_goals cases h <;> nofun

end ErrorSource

/-- No report is turned down with a status of the core. -/
theorem Region.ne_core_of_write {r : Region} {sectionType : Guid} {report : Report Bytes}
    {e : CallError} (h : r.write sectionType report = some (.error e)) (s : Status) :
    e ≠ .core s := by
  rw [write_eq] at h
  repeat' split at h
  all_goals cases h <;> nofun

namespace Scenario

variable {σ : Type} {S : Scenario σ} {m n : State σ} {buffer : Option Bytes} {size : Option Nat}
  {a : EventAnswer} {inside : List Outcome}

/-! ## Events that are handled to the end -/

/-- A call that handles an event in `buffer` publishes a report of it: it captures the report, the
region becomes what is left by all that happened outside meanwhile, with the report written into it,
and the caller's size becomes zero. -/
def Publishes (S : Scenario σ) (m : State σ) (buffer : Option Bytes) (size : Option Nat)
    (inside : List Outcome) (region : Region) (left : Option Nat) : Prop :=
  ∃ report, S.reportOf? S.capture m buffer size = some report ∧
    (m.region.outsideAll (traces inside)).write S.source.source.sectionType report =
      some (.ok region) ∧
    left = some 0

/-- **An event is handled to the end if and only if a report of it is published.** -/
theorem handled_iff_publishes
    (h : S.source.handleEvent S.capture m buffer size = (n, a, inside)) :
    a.result = some (.ok ()) ↔ S.Publishes m buffer size inside n.region a.size := by
  constructor
  · intro hok
    have hsize := S.source.handleEvent_size S.capture m buffer size
    rw [h] at hsize
    rcases handleEvent_region S.capture_discreet h with
      ⟨-, e, he⟩ | ⟨-, report, hreport, hwrite⟩ | ⟨hnever, -⟩
    · rw [hok] at he
      cases he
    · exact ⟨report, hreport, hwrite, by simpa only [hok] using hsize⟩
    · rw [hok] at hnever
      cases hnever
  · rintro ⟨report, hreport, hwrite, -⟩
    rcases handleEvent_effect (S := S) S.capture m buffer size with
      ⟨messages, e, size', -, hnone, -⟩ |
      ⟨event, captured, outcome, inside', m', result, size', -, hcap, hr, hpub, heq⟩
    · rw [hnone] at hreport
      cases hreport
    · rw [heq] at h
      cases h
      rw [← S.capture_discreet.region_eq hcap] at hwrite
      rw [hr] at hreport
      rcases S.source.publish_cases hpub with
        ⟨-, e, rfl, rfl | ⟨report', rfl, hfail⟩⟩ | ⟨report', r', -, -, -, rfl⟩ |
        ⟨report', rfl, hfail, -, rfl⟩
      · cases hreport
      · cases hreport
        rw [hwrite] at hfail
        cases hfail
      · rfl
      · cases hreport
        rw [hwrite] at hfail
        cases hfail

/-- An event fails with a status of the core only where its capture does. -/
theorem capture_of_core (h : S.source.handleEvent S.capture m buffer size = (n, a, inside))
    {s : Status} (hs : a.result = some (.error (.core s))) :
    ∃ event, S.source.accept m buffer size = .ok event ∧
      (S.capture event m.lock).2.1 = .error (.core s) := by
  cases haccept : S.source.accept m buffer size with
  | error r =>
    rw [ErrorSource.handleEvent, haccept] at h
    cases h
    exact (S.source.ne_core_of_accept haccept s (Except.error.inj (Option.some.inj hs))).elim
  | ok event =>
    rcases hcap : S.capture event m.lock with ⟨captured, outcome, inside'⟩
    rcases hpub : S.source.publish captured outcome with ⟨m', result⟩
    rw [ErrorSource.handleEvent, haccept] at h
    simp only [hcap, hpub] at h
    refine ⟨event, rfl, ?_⟩
    rw [hcap]
    rcases S.source.publish_cases hpub with
      ⟨-, e, rfl, rfl | ⟨report, rfl, hfail⟩⟩ | ⟨report, r, rfl, -, -, rfl⟩ |
      ⟨report, rfl, -, -, rfl⟩
    · cases h
      cases hs
      rfl
    · cases h
      exact (Region.ne_core_of_write hfail s (Except.error.inj (Option.some.inj hs))).elim
    · cases h
      cases hs
    · cases h
      cases hs

/-! ## What is told -/

/-- **What the handler tells of an event.** Whatever the source and the state are, an event is
handled to the end if and only if a report of it is published, and then the handler answers success.
If it is not, and the failure is none of the core's or one with an error status, the handler answers
an error status and logs it. A status of the core stems from the capture of the event, and it is
answered as it is. So success is answered for a published report, or for a capture that fails with
the status of success. The handler returns if handling the event does. -/
theorem handler_reports_outcome {k : State σ} {b : HandlerAnswer} {inside' : List Outcome}
    (hevent : S.source.handleEvent S.capture m buffer size = (n, a, inside))
    (hhandler : S.source.handle S.capture m buffer size = (k, b, inside')) :
    (a.result = some (.ok ()) ↔ S.Publishes m buffer size inside' k.region b.size) ∧
    (a.result = some (.ok ()) → b.status = some .success ∧ k = n) ∧
    (∀ e, a.result = some (.error e) → (∀ s, e = .core s → s.isError = true) →
      ∃ status, b.status = some status ∧ status.isError = true ∧
        status.raw.toNat.testBit 63 = true ∧ status.raw.toNat.testBit 62 = false ∧
        k = n.say [.handlerFailed S.source.config.sourceId status]) ∧
    (∀ s, a.result = some (.error (.core s)) →
      (∃ event, S.source.accept m buffer size = .ok event ∧
        (S.capture event m.lock).2.1 = .error (.core s)) ∧
      b.status = some s ∧ (s.isError = false → k = n)) ∧
    (b.status = some .success ↔
      a.result = some (.ok ()) ∨ a.result = some (.error (.core .success))) ∧
    (b.status = none ↔ a.result = none) := by
  have hpublishes := handled_iff_publishes hevent
  have hregion := (S.source.handle_eq S.capture m buffer size).1
  have hcore : ∀ s, a.result = some (.error (.core s)) → _ := fun s hs => capture_of_core hevent hs
  rw [hevent, hhandler] at hregion
  rw [ErrorSource.handle, hevent] at hhandler
  obtain ⟨result, left⟩ := a
  cases hhandler
  refine ⟨?_, ?_, ?_, ?_, ?_, ?_⟩
  · rw [hregion]
    exact hpublishes
  · rintro rfl
    exact ⟨rfl, if_neg (by simp [Status.ofResult, Status.isError_success])⟩
  · rintro e rfl he
    have herror := e.isError_status_iff.2 he
    obtain ⟨htop, hnext⟩ := e.status.isError_iff.1 herror
    exact ⟨e.status, rfl, herror, htop, hnext, if_pos herror⟩
  · rintro s rfl
    exact ⟨hcore s rfl, rfl, fun hs => if_neg (by simp [Status.ofResult, CallError.status, hs])⟩
  · rcases result with _ | e | _
    · simp
    · simp [Status.ofResult, e.status_eq_success_iff]
    · simp [Status.ofResult]
  · simp

end Scenario

/-! ## A capture that fails with a status -/

namespace Sample

/-- A source whose captures fail with a status of the core. -/
def failing (s : Status) : Scenario Nat where
  source := ⟨⟨7, 0x80, descriptorProtocol, 0x1000, 128⟩,
    playbackSource descriptorProtocol 4 2 [⟨[], .error (.core s)⟩]⟩
  interrupts _ := []

/-- The source once its descriptors have been handed out. -/
def failingPublished (s : Status) : State Nat :=
  ((failing s).run [.getDescriptors (some (List.replicate 92 0)) (some 92) (some 1)] start).1

/-- What handling an event comes to. -/
def failingEvent (s : Status) : State Nat × EventAnswer × List Outcome :=
  (failing s).source.handleEvent (failing s).capture (failingPublished s) (some [8, 9]) (some 2)

/-- What the handler makes of it. -/
def failingHandler (s : Status) : State Nat × HandlerAnswer × List Outcome :=
  (failing s).source.handle (failing s).capture (failingPublished s) (some [8, 9]) (some 2)

end Sample

/-- The handler answers success although the event was not handled to the end: the capture failed,
no report was published, and the failure is not logged. With a status that is neither success nor an
error, the handler answers neither of them. -/
theorem silent_failure :
    ¬ ((Sample.failingHandler .success).2.1.status = some .success ↔
      (Sample.failingEvent .success).2.1.result = some (.ok ())) ∧
    (Sample.failingEvent .success).2.1.result = some (.error (.core .success)) ∧
    (Sample.failingHandler .success).2.1 = ⟨some .success, some 2, some [8, 9]⟩ ∧
    (Sample.failingHandler .success).1.region = (Sample.failingPublished .success).region ∧
    (Sample.failingHandler .success).1.platform.log =
      (Sample.failingPublished .success).platform.log ∧
    (Sample.failingEvent ⟨1⟩).2.1.result = some (.error (.core ⟨1⟩)) ∧
    (Sample.failingHandler ⟨1⟩).2.1.status = some ⟨1⟩ ∧ (⟨1⟩ : Status).isError = false := by
  have hfail : (Sample.failingEvent .success).2.1.result = some (.error (.core .success)) := by
    decide +kernel
  have hstatus : (Sample.failingHandler .success).2.1 = ⟨some .success, some 2, some [8, 9]⟩ := by
    decide +kernel
  refine ⟨fun h => ?_, hfail, hstatus, by decide +kernel, by decide +kernel, by decide +kernel,
    by decide +kernel, rfl⟩
  rw [hstatus, hfail] at h
  cases h.1 rfl

/-- The sample source publishes a report and is taken at its word, and a capture that fails with an
error status is logged. -/
theorem handler_reports_outcome_sample :
    (∃ status, (Sample.failingHandler .outOfResources).2.1.status = some status ∧
      status.isError = true ∧ (Sample.failingHandler .outOfResources).1 =
        (Sample.failingEvent .outOfResources).1.say [.handlerFailed 7 status]) ∧
    (Sample.scenario.source.handle Sample.scenario.capture Sample.published (some [8, 9])
      (some 2)).2.1.status = some .success := by
  have hfail : (Sample.failingEvent .outOfResources).2.1.result =
      some (.error (.core .outOfResources)) := by
    decide +kernel
  have hparts : ∀ {α β γ : Type} (p : α × β × γ), p = (p.1, p.2.1, p.2.2) := fun _ => rfl
  obtain ⟨-, -, herror, -⟩ := Scenario.handler_reports_outcome
    (hparts (Sample.failingEvent .outOfResources)) (hparts (Sample.failingHandler .outOfResources))
  obtain ⟨status, hstatus, hisError, -, -, hlogged⟩ := herror _ hfail (by rintro s ⟨⟩; decide)
  have hok : (Sample.scenario.source.handleEvent Sample.scenario.capture Sample.published
      (some [8, 9]) (some 2)).2.1.result = some (.ok ()) := by
    decide +kernel
  obtain ⟨-, hsuccess, -⟩ := Scenario.handler_reports_outcome
    (hparts (Sample.scenario.source.handleEvent Sample.scenario.capture Sample.published
      (some [8, 9]) (some 2)))
    (hparts (Sample.scenario.source.handle Sample.scenario.capture Sample.published
      (some [8, 9]) (some 2)))
  exact ⟨⟨status, hstatus, hisError, hlogged⟩, (hsuccess hok).1⟩

end FirmwareFirst
