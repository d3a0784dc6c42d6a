import FirmwareFirst.Proofs.Simulation
import FirmwareFirst.Source.Playback
import FirmwareFirst.Source.Processor
import FirmwareFirst.Source.Ram

/-!
# Runs without nested calls

`Capture.Erases` relates a capture to one that makes none of its calls, if it does not matter what
these calls answer, and `Scenario.withoutCalls` leaves out what calls the error source in between as
well. Both runs go on in states that look alike (`State.Alike`), and what can be seen of them from
outside of captures is the same.
-/

namespace FirmwareFirst

/-! ## States that look alike -/

/-- Nothing tells two states apart but their logs, and what the event source remembers, which is
related by `Inner`. -/
def State.Alike {σ : Type} (Inner : σ → σ → Prop) (m n : State σ) : Prop :=
  ∃ inner log, Inner m.inner inner ∧
    n = { m with inner := inner, platform := { m.platform with log := log } }

namespace State.Alike

variable {σ : Type} {Inner : σ → σ → Prop} {m n : State σ}

theorem refl (h : Inner m.inner m.inner) : Alike Inner m m :=
  ⟨m.inner, m.platform.log, h, rfl⟩

theorem hold_eq (h : Alike Inner m n) : n.hold = m.hold := by
  obtain ⟨inner, log, hinner, rfl⟩ := h
  rfl

theorem region_eq (h : Alike Inner m n) : n.region = m.region := by
  obtain ⟨inner, log, hinner, rfl⟩ := h
  rfl

theorem core_eq (h : Alike Inner m n) : n.core = m.core := by
  obtain ⟨inner, log, hinner, rfl⟩ := h
  rfl

theorem accesses_eq (h : Alike Inner m n) : n.platform.accesses = m.platform.accesses := by
  obtain ⟨inner, log, hinner, rfl⟩ := h
  rfl

theorem say_left (h : Alike Inner m n) (messages : List Message) :
    Alike Inner (m.say messages) n := by
  obtain ⟨inner, log, hinner, rfl⟩ := h
  exact ⟨inner, log, hinner, rfl⟩

theorem say_right (h : Alike Inner m n) (messages : List Message) :
    Alike Inner m (n.say messages) := by
  obtain ⟨inner, log, hinner, rfl⟩ := h
  exact ⟨inner, log ++ messages, hinner, rfl⟩

theorem say (h : Alike Inner m n) (messages : List Message) :
    Alike Inner (m.say messages) (n.say messages) :=
  (h.say_left messages).say_right messages

theorem lock (h : Alike Inner m n) : Alike Inner m.lock n.lock := by
  obtain ⟨inner, log, hinner, rfl⟩ := h
  exact ⟨inner, log, hinner, rfl⟩

theorem unlock (h : Alike Inner m n) : Alike Inner m.unlock n.unlock := by
  obtain ⟨inner, log, hinner, rfl⟩ := h
  exact ⟨inner, log, hinner, rfl⟩

theorem outside (h : Alike Inner m n) (e : Outside) :
    Alike Inner (m.outside e) (n.outside e) := by
  obtain ⟨inner, log, hinner, rfl⟩ := h
  cases e <;> exact ⟨inner, log, hinner, rfl⟩

theorem load (h : Alike Inner m n) (bus : Bus) (address : UInt64) :
    Alike Inner { m with platform := m.platform.load bus address }
      { n with platform := n.platform.load bus address } := by
  obtain ⟨inner, log, hinner, rfl⟩ := h
  cases bus <;> exact ⟨inner, log, hinner, rfl⟩

theorem store (h : Alike Inner m n) (bus : Bus) (address : UInt64) (value : UInt32) :
    Alike Inner { m with platform := m.platform.store bus address value }
      { n with platform := n.platform.store bus address value } := by
  obtain ⟨inner, log, hinner, rfl⟩ := h
  cases bus <;> exact ⟨inner, log, hinner, rfl⟩

theorem peek (h : Alike Inner m n) (bus : Bus) (address : UInt64) :
    n.platform.peek bus address = m.platform.peek bus address := by
  obtain ⟨inner, log, hinner, rfl⟩ := h
  cases bus <;> rfl

end State.Alike

/-! ## The same call in states that look alike -/

namespace ErrorSource

variable {κ ρ σ ω : Type} (E : ErrorSource κ ρ σ) {Inner : σ → σ → Prop} {m n : State σ}

theorem getDescriptors_alike (h : m.Alike Inner n) (buffer : Option Bytes)
    (length count : Option Nat) :
    (E.getDescriptors m buffer length count).1.Alike Inner
        (E.getDescriptors n buffer length count).1 ∧
      (E.getDescriptors n buffer length count).2 = (E.getDescriptors m buffer length count).2 := by
  obtain ⟨inner, log, hinner, rfl⟩ := h
  have hsame : m.Alike Inner
      { m with inner := inner, platform := { m.platform with log := log } } :=
    ⟨inner, log, hinner, rfl⟩
  unfold getDescriptors
  split
  · split
    · exact ⟨hsame, rfl⟩
    · split
      · exact ⟨hsame, rfl⟩
      · split
        · exact ⟨hsame, rfl⟩
        · simp only []
          split
          · rename_i region messages hprepare
            refine ⟨State.Alike.say (m := { m with region := region }) ?_ _, rfl⟩
            exact ⟨inner, log, hinner, rfl⟩
          · exact ⟨⟨inner, log, hinner, rfl⟩, rfl⟩
  · exact ⟨hsame, rfl⟩

theorem callInterface_alike (h : m.Alike Inner n) (c : InterfaceCall) :
    (E.callInterface m c).1.Alike Inner (E.callInterface n c).1 ∧
      (E.callInterface n c).2 = (E.callInterface m c).2 := by
  unfold callInterface
  split
  · exact ⟨h, rfl⟩
  · obtain ⟨hs, ha⟩ := E.getDescriptors_alike h (c.buffer.join.map (·.take descriptorsLength))
      c.length c.count
    simp only [ha, and_true]
    split
    · exact hs
    · exact hs
    · exact hs
    · exact hs.say _

theorem accept_alike (h : m.Alike Inner n) (buffer : Option Bytes) (size : Option Nat) :
    E.accept n buffer size = E.accept m buffer size := by
  obtain ⟨inner, log, hinner, rfl⟩ := h
  rfl

theorem publish_alike (h : m.Alike Inner n) (outcome : Except CallError (Report Bytes)) :
    (E.publish m outcome).1.Alike Inner (E.publish n outcome).1 ∧
      (E.publish n outcome).2 = (E.publish m outcome).2 := by
  cases outcome with
  | error e => exact ⟨h, rfl⟩
  | ok report =>
    obtain ⟨inner, log, hinner, rfl⟩ := h
    simp only [publish]
    split
    · rename_i region messages result hpublish
      refine ⟨State.Alike.say (m := { m with region := region }) ?_ _, rfl⟩
      exact ⟨inner, log, hinner, rfl⟩
    · exact ⟨⟨inner, log, hinner, rfl⟩, rfl⟩

end ErrorSource

/-! ## Captures without their calls -/

/-- The step calls the error source. -/
def Step.isCall : Step → Bool
  | .install _ _ _ _ => false
  | .outside _ => false
  | _ => true

/-- The second capture is the first one without its calls. How the first one goes on, what it logs
aside, does not depend on what the calls answer, and neither does what the event source remembers,
as far as `Inner` can tell. -/
inductive Capture.Erases {σ : Type} (Inner : σ → σ → Prop) :
    Capture Step Answer σ → Capture Step Answer σ → Prop where
  | finish {inner inner' : σ} (h : Inner inner inner')
      (outcome : Except CallError (Report Bytes)) :
      Erases Inner (.finish inner outcome) (.finish inner' outcome)
  | log {c c' : Capture Step Answer σ} (message : Message) (h : Erases Inner c c') :
      Erases Inner (.log message c) c'
  | logged {c c' : Capture Step Answer σ} (message : Message) (h : Erases Inner c c') :
      Erases Inner c (.log message c')
  | record {c c' : Capture Step Answer σ} (access : Access) (h : Erases Inner c c') :
      Erases Inner (.record access c) (.record access c')
  | load {next next' : UInt32 → Capture Step Answer σ} (bus : Bus) (address : UInt64)
      (h : ∀ value, Erases Inner (next value) (next' value)) :
      Erases Inner (.load bus address next) (.load bus address next')
  | store {c c' : Capture Step Answer σ} (bus : Bus) (address : UInt64) (value : UInt32)
      (h : Erases Inner c c') :
      Erases Inner (.store bus address value c) (.store bus address value c')
  | call {request : Step} {next : Answer → Capture Step Answer σ} {c' : Capture Step Answer σ}
      (hr : request.isCall = true) (h : ∀ answer, Erases Inner (next answer) c') :
      Erases Inner (.call request next) c'
  /-- What is no call is kept. -/
  | keep {request : Step} {next next' : Answer → Capture Step Answer σ}
      (hr : request.isCall = false) (h : ∀ answer, Erases Inner (next answer) (next' answer)) :
      Erases Inner (.call request next) (.call request next')

namespace Capture

variable {σ : Type} {Inner : σ → σ → Prop}

theorem Erases.callAll {c c' : Capture Step Answer σ} (h : c.Erases Inner c')
    (requests : List Step) :
    (Capture.callAll requests c).Erases Inner
      (Capture.callAll (requests.filter fun s => !s.isCall) c') := by
  induction requests with
  | nil => exact h
  | cons s requests ih =>
    cases hs : s.isCall with
    | true =>
      rw [List.filter_cons_of_neg (by simp [hs])]
      exact .call hs fun _ => ih
    | false =>
      rw [List.filter_cons_of_pos (by simp [hs])]
      exact .keep hs fun _ => ih

end Capture

/-! ## The sources at hand -/

/-- The RAM error source makes no calls. -/
theorem captureRam_erases (bus : Bus) (config : RamConfig) (event : Bytes) :
    (captureRam bus config event : Capture Step Answer Unit).Erases Eq
      (captureRam bus config event) := by
  unfold captureRam
  split
  · exact .finish rfl _
  · refine .load _ _ fun status => .load _ _ fun code => .load _ _ fun address => ?_
    refine .store _ _ _ (.log _ (.logged _ ?_))
    exact .log _ (.logged _ (.finish rfl _))

/-- The processor error source makes no calls. -/
theorem captureProcessor_erases (event : Bytes) :
    (captureProcessor event : Capture Step Answer Unit).Erases Eq (captureProcessor event) := by
  unfold captureProcessor
  split
  · exact .finish rfl _
  · exact .log _ (.logged _ (.finish rfl _))

/-- The prepared capture without its calls. -/
def Prepared.withoutCalls (c : Prepared Step) : Prepared Step :=
  { c with calls := c.calls.filter fun s => !s.isCall }

/-- It does not matter to a playback source what its calls answer. -/
theorem playCapture_erases (captures : List (Prepared Step)) (n : Nat) (event : Bytes) :
    (playCapture captures n event : Capture Step Answer Nat).Erases Eq
      (playCapture (captures.map Prepared.withoutCalls) n event) := by
  have hpick : Prepared.pick? (captures.map Prepared.withoutCalls) n =
      (Prepared.pick? captures n).map Prepared.withoutCalls := by
    rw [Prepared.pick?, Prepared.pick?, List.getElem?_map, List.getLast?_map]
    cases captures[n]? <;> rfl
  unfold playCapture
  rw [hpick]
  cases Prepared.pick? captures n with
  | none => exact .record _ (.finish rfl _)
  | some c => exact .record _ (.callAll (.finish rfl _) c.calls)

/-! ## What can be seen of a run -/

mutual

/-- What can be seen of an outcome from outside of captures. -/
def Outcome.surface : Outcome → Outcome
  | mk step answer inside after =>
    mk step answer (if step.event?.isSome then [] else surfaces inside) after

def Outcome.surfaces : List Outcome → List Outcome
  | [] => []
  | o :: os => o.surface :: surfaces os

end

namespace Outcome

theorem surfaces_append (os ps : List Outcome) :
    surfaces (os ++ ps) = surfaces os ++ surfaces ps := by
  induction os with
  | nil => rw [List.nil_append, surfaces, List.nil_append]
  | cons o os ih => rw [List.cons_append, surfaces, surfaces, ih, List.cons_append]

/-- What happens inside of a capture cannot be seen. -/
theorem surfaces_event {s : Step} (hs : s.event?.isSome = true) (a : Answer)
    (inside inside' : List Outcome) (after : Except CallError Region) :
    surfaces [mk s a inside' after] = surfaces [mk s a inside after] := by
  simp only [surfaces, surface, hs, if_true]

end Outcome

namespace Scenario

variable {σ : Type} {Inner : σ → σ → Prop}

/-- The scenario with other captures, and without the calls that interrupt them. -/
def withoutCalls (S : Scenario σ) (captures : σ → Bytes → Capture Step Answer σ) : Scenario σ where
  source := { S.source with source := { S.source.source with capture := captures } }
  interrupts n := (S.interrupts n).filter fun s => !s.isCall

/-- Two ways to capture events leave states alike and report the same. -/
def CapturesAlike (Inner : σ → σ → Prop) (capture capture' : Capturing σ) : Prop :=
  ∀ {m n : State σ}, m.hold = .exclusive → m.Alike Inner n → ∀ event,
    (capture event m).1.Alike Inner (capture' event n).1 ∧
      (capture' event n).2.1 = (capture event m).2.1

theorem noCapture_alike : CapturesAlike Inner (noCapture : Capturing σ) noCapture :=
  fun _ h _ => ⟨h, rfl⟩

variable (S : Scenario σ) (captures : σ → Bytes → Capture Step Answer σ)
  {capture capture' : Capturing σ} {m n : State σ}

theorem handleEvent_alike (hcaptures : CapturesAlike Inner capture capture')
    (h : m.Alike Inner n) (buffer : Option Bytes) (size : Option Nat) :
    (S.source.handleEvent capture m buffer size).1.Alike Inner
        ((S.withoutCalls captures).source.handleEvent capture' n buffer size).1 ∧
      ((S.withoutCalls captures).source.handleEvent capture' n buffer size).2.1 =
        (S.source.handleEvent capture m buffer size).2.1 := by
  have haccept : (S.withoutCalls captures).source.accept n buffer size =
      S.source.accept m buffer size := S.source.accept_alike h buffer size
  unfold ErrorSource.handleEvent
  rw [haccept]
  cases S.source.accept m buffer size with
  | error r => exact ⟨h.say r.log, rfl⟩
  | ok event =>
    obtain ⟨hm, ho⟩ := hcaptures rfl h.lock event
    rcases hc : capture event m.lock with ⟨m₁, outcome, inside⟩
    rcases hc' : capture' event n.lock with ⟨n₁, outcome', inside'⟩
    rw [hc, hc'] at hm ho
    cases ho
    obtain ⟨hpm, hpr⟩ := S.source.publish_alike hm outcome
    rcases hp : S.source.publish m₁ outcome with ⟨m₂, result⟩
    rcases hp' : S.source.publish n₁ outcome with ⟨n₂, result'⟩
    rw [hp, hp'] at hpm hpr
    cases hpr
    have hpublish : (S.withoutCalls captures).source.publish n₁ outcome = (n₂, result) := hp'
    simp only [hc, hc', hp, hpublish]
    rcases result with _ | e | ok
    · exact ⟨hpm, rfl⟩
    · exact ⟨hpm.unlock, rfl⟩
    · exact ⟨hpm.unlock, rfl⟩

theorem handle_alike (hcaptures : CapturesAlike Inner capture capture')
    (h : m.Alike Inner n) (buffer : Option Bytes) (size : Option Nat) :
    (S.source.handle capture m buffer size).1.Alike Inner
        ((S.withoutCalls captures).source.handle capture' n buffer size).1 ∧
      ((S.withoutCalls captures).source.handle capture' n buffer size).2.1 =
        (S.source.handle capture m buffer size).2.1 := by
  obtain ⟨hm, ha⟩ := S.handleEvent_alike captures hcaptures h buffer size
  unfold ErrorSource.handle
  simp only [ha, and_true]
  cases (S.source.handleEvent capture m buffer size).2.1.result with
  | none => exact hm
  | some result =>
    simp only [Option.map_some]
    split
    · exact hm.say _
    · exact hm

/-- A step that holds no other steps answers the same, and looks the same from outside. -/
theorem single_alike (hcaptures : CapturesAlike Inner capture capture') (h : m.Alike Inner n)
    {s : Step} (hs : s.isSingle = true) :
    (S.stepWith capture s m).1.Alike Inner ((S.withoutCalls captures).stepWith capture' s n).1 ∧
      ((S.withoutCalls captures).stepWith capture' s n).2.1 = (S.stepWith capture s m).2.1 ∧
      ∀ a after,
        Outcome.surfaces [.mk s a ((S.withoutCalls captures).stepWith capture' s n).2.2 after] =
          Outcome.surfaces [.mk s a (S.stepWith capture s m).2.2 after] := by
  cases s with
  | getDescriptors buffer length count =>
    obtain ⟨hm, ha⟩ := S.source.getDescriptors_alike h buffer length count
    exact ⟨hm, congrArg Answer.descriptors ha, fun _ _ => rfl⟩
  | descriptor =>
    refine ⟨h, ?_, fun _ _ => rfl⟩
    obtain ⟨inner, log, hinner, rfl⟩ := h
    rfl
  | handleEvent buffer size =>
    obtain ⟨hm, ha⟩ := S.handleEvent_alike captures hcaptures h buffer size
    exact ⟨hm, congrArg Answer.event ha, fun a => Outcome.surfaces_event rfl a _ _⟩
  | handle buffer size =>
    obtain ⟨hm, ha⟩ := S.handle_alike captures hcaptures h buffer size
    exact ⟨hm, congrArg Answer.handler ha, fun a => Outcome.surfaces_event rfl a _ _⟩
  | dispatch buffer size =>
    obtain ⟨hm, ha⟩ := S.handle_alike captures hcaptures h buffer size
    simp only [stepWith, h.core_eq]
    split
    · exact ⟨hm, congrArg Answer.handler ha, fun a => Outcome.surfaces_event rfl a _ _⟩
    · exact ⟨h, rfl, fun _ _ => rfl⟩
  | callInterface call =>
    obtain ⟨hm, ha⟩ := S.source.callInterface_alike h call
    simp only [stepWith, h.core_eq]
    split
    · exact ⟨hm, congrArg Answer.interface ha, fun _ _ => rfl⟩
    · exact ⟨h, rfl, fun _ _ => rfl⟩
  | withRegion inside => cases hs
  | config => exact ⟨h, rfl, fun _ _ => rfl⟩
  | install replies onRegister onInstall onUnregister => cases hs
  | outside e => exact ⟨h.outside e, rfl, fun _ _ => rfl⟩

/-- Runs of a scenario and of the one without calls keep states alike, if captures do. -/
theorem simulation_of_alike (hcaptures : CapturesAlike Inner capture capture') :
    Simulation S (S.withoutCalls captures) capture capture' (State.Alike Inner)
      (fun os os' => Outcome.surfaces os' = Outcome.surfaces os) where
  config := rfl
  hold := fun h => h.hold_eq
  region := fun h => h.region_eq
  say := fun h messages => h.say messages
  core := by
    rintro m n ⟨inner, log, hinner, rfl⟩ c
    exact ⟨inner, log, hinner, rfl⟩
  enter := by
    rintro m n ⟨inner, log, hinner, rfl⟩ hold hshare
    exact ⟨inner, log, hinner, rfl⟩
  leave := by
    rintro m n k l h ⟨inner, log, hinner, rfl⟩
    exact ⟨inner, log, hinner, rfl⟩
  single := fun h _ hs => S.single_alike captures hcaptures h hs
  nil := rfl
  append := fun h h' => by rw [Outcome.surfaces_append, Outcome.surfaces_append, h, h']
  wrap := fun h s a after => by
    simp only [Outcome.surfaces, Outcome.surface, h]

/-- While a call may change the region, nothing but messages comes of any call. -/
theorem call_says (capture : Capturing σ) (hm : m.hold = .exclusive) {s : Step}
    (hs : s.isCall = true) :
    ∃ messages, (S.stepWith capture s m).1 = m.say messages := by
  have hheld : m.hold ≠ .free := by simp [hm]
  by_cases hsingle : s.isSingle = true
  · rcases heq : S.stepWith capture s m with ⟨m', a, inside⟩
    cases effect_of_eq hsingle heq with
    | idle messages => exact ⟨messages, rfl⟩
    | published messages hfree => exact (hheld hfree).elim
    | stuck hfree => exact (hheld hfree).elim
    | handled messages he haccept =>
      exact (hheld (S.source.of_accept haccept).1).elim
    | outside e => cases hs
  · cases s with
    | withRegion inside =>
      rw [stepWith, Hold.share?_eq_none_iff.2 hm]
      exact ⟨[], (State.say_nil m).symm⟩
    | install replies onRegister onInstall onUnregister => cases hs
    | _ => exact (hsingle rfl).elim

/-! ## Captures and runs -/

/-- What happens inside of a capture leaves states alike if the calls are left out. -/
theorem stepsWith_alike (hm : m.hold = .exclusive) (h : m.Alike Inner n) (ss : List Step) :
    (S.stepsWith noCapture ss m).1.Alike Inner
      ((S.withoutCalls captures).stepsWith noCapture (ss.filter fun s => !s.isCall) n).1 := by
  induction ss generalizing m n with
  | nil =>
    rw [List.filter_nil, stepsWith, stepsWith]
    exact h
  | cons s ss ih =>
    have hheld : (S.stepWith noCapture s m).1.hold = .exclusive := by
      rw [((stepWith_stretch S noCapture m s).hold_of_held (by simp [hm])).1, hm]
    rw [stepsWith]
    cases hs : s.isCall with
    | true =>
      obtain ⟨messages, hsay⟩ := S.call_says noCapture hm hs
      rw [List.filter_cons_of_neg (by simp [hs])]
      apply ih hheld
      rw [hsay]
      exact h.say_left messages
    | false =>
      rw [List.filter_cons_of_pos (by simp [hs]), stepsWith]
      exact ih hheld ((S.simulation_of_alike captures noCapture_alike).step h s).1

theorem interrupt_alike (hm : m.hold = .exclusive) (h : m.Alike Inner n) (bus : Bus) :
    (S.interrupt noCapture m bus).1.Alike Inner
      ((S.withoutCalls captures).interrupt noCapture n bus).1 := by
  cases bus with
  | bank =>
    rw [interrupt, interrupt, h.accesses_eq]
    exact S.stepsWith_alike captures hm h _
  | device => exact h

/-- A capture and the one without its calls leave states alike and report the same. -/
theorem perform_alike {c c' : Capture Step Answer σ} (herases : c.Erases Inner c')
    (hm : m.hold = .exclusive) (h : m.Alike Inner n) :
    (S.perform noCapture c m).1.Alike Inner
        ((S.withoutCalls captures).perform noCapture c' n).1 ∧
      ((S.withoutCalls captures).perform noCapture c' n).2.1 =
        (S.perform noCapture c m).2.1 := by
  induction herases generalizing m n with
  | finish hinner outcome =>
    obtain ⟨inner, log, -, rfl⟩ := h
    exact ⟨⟨_, log, hinner, rfl⟩, rfl⟩
  | log message _ ih => exact ih hm (h.say_left [message])
  | logged message _ ih => exact ih hm (h.say_right [message])
  | record access _ ih =>
    refine ih hm ?_
    obtain ⟨inner, log, hinner, rfl⟩ := h
    exact ⟨inner, log, hinner, rfl⟩
  | load bus address _ ih =>
    have hheld := (S.interrupt_kept noCapture (m := m) (by simp [hm]) bus).hold
    have hi := S.interrupt_alike captures hm h bus
    rw [perform, perform]
    simp only [hi.peek]
    exact ih _ (hheld.trans hm) (hi.load bus address)
  | store bus address value _ ih =>
    have hheld := (S.interrupt_kept noCapture (m := m) (by simp [hm]) bus).hold
    have hi := S.interrupt_alike captures hm h bus
    rw [perform, perform]
    exact ih (hheld.trans hm) (hi.store bus address value)
  | @call request next c' hr _ ih =>
    have hheld := ((stepWith_stretch S noCapture m request).hold_of_held (by simp [hm])).1
    obtain ⟨messages, hsay⟩ := S.call_says noCapture hm hr
    rw [perform]
    refine ih _ (hheld.trans hm) ?_
    rw [hsay]
    exact h.say_left messages
  | @keep request next next' hr _ ih =>
    have hheld := ((stepWith_stretch S noCapture m request).hold_of_held (by simp [hm])).1
    obtain ⟨hs, ha, -⟩ := (S.simulation_of_alike captures noCapture_alike).step h request
    rw [perform, perform]
    simp only [ha]
    exact ih _ (hheld.trans hm) hs

/-- **Nested calls change nothing that can be seen.** If captures go on without their calls as they
do with them, leaving out all that calls the error source while an event is captured leaves states
alike, and of every step what can be seen of it from outside of captures. -/
theorem run_alike (herases : ∀ {inner inner' : σ}, Inner inner inner' → ∀ event,
      (S.source.source.capture inner event).Erases Inner (captures inner' event))
    (h : m.Alike Inner n) (steps : List Step) :
    (S.run steps m).1.Alike Inner ((S.withoutCalls captures).run steps n).1 ∧
      Outcome.surfaces ((S.withoutCalls captures).run steps n).2 =
        Outcome.surfaces (S.run steps m).2 := by
  have hcaptures : CapturesAlike Inner S.capture (S.withoutCalls captures).capture := by
    intro m n hm h event
    have hinner : Inner m.inner n.inner := by
      obtain ⟨inner, log, hinner, rfl⟩ := h
      exact hinner
    exact S.perform_alike captures (herases hinner event) hm h
  exact (S.simulation_of_alike captures hcaptures).steps h steps

end Scenario
end FirmwareFirst
