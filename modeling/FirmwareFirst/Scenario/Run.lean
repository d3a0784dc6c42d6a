import FirmwareFirst.Scenario.Step

/-!
# Running a scenario

`Scenario.step` says what a step does. Steps may happen inside of steps: while the region is read,
while the firmware core answers a request, and while an event is captured, either because the event
source calls back or because something interrupts it before it reaches a register.

While an event is captured the region is held, so no step inside can start a second capture. The
steps inside of a capture are therefore run by `stepWith` with a stand-in for captures that is never
asked, and running a scenario needs no bound on its depth. `perform` takes the stand-in as a
parameter, so that it can be said that it is never asked.

A call that never returns is the last thing that happens. The steps behind it are run all the same,
and find the region in use by it: what is said of all runs is said of those that it ends as well,
since they are runs of fewer steps.
-/

namespace FirmwareFirst

/-- An error source, and what interrupts its captures: the steps that happen before each access to
the register bank, by the number of accesses before it. -/
structure Scenario (σ : Type) where
  source : ErrorSource Step Answer σ
  interrupts : Nat → List Step

/-- An installation under way: the state, the outcomes of the steps inside and the requests so
far. -/
structure Installing (σ : Type) where
  state : State σ
  inside : List Outcome
  calls : List CoreCall

namespace Installing

variable {σ : Type}

/-- The installation after a request, during which some steps happen. -/
def request (w : Installing σ) (call : CoreCall) (core : CoreRecord → CoreRecord)
    (happen : State σ → State σ × List Outcome) : Installing σ :=
  let (m, os) := happen { w.state with core := core w.state.core }
  ⟨m, w.inside ++ os, w.calls ++ [call]⟩

/-- A firmware core that answers as laid down. It remembers a handler from the request to register
it to the request to take it back, and an interface from the request to install it, unless the
request fails. -/
def services (replies : CoreReplies)
    (onRegister onInstall onUnregister : State σ → State σ × List Outcome) :
    Services (Installing σ) Unit where
  register guid w :=
    (w.request (.register guid) (fun c => { c with handler := true }) onRegister, replies.register)
  install guid _ w :=
    let w := w.request (.install guid) (fun c => { c with interface := true }) onInstall
    match replies.install with
    | .ok handle => (w, .ok handle)
    | .error status =>
      let m := w.state
      ({ w with state := { m with core := { m.core with interface := false } } }, .error status)
  unregister handle w :=
    (w.request (.unregister handle) (fun c => { c with handler := false }) onUnregister,
      replies.unregister)
  allocate w := (w, ())
  release _ w := w
  log message w := { w with state := w.state.say [message] }
  regionBase w := match w.state.view with
    | .ok region => region.base
    | .error _ => 0

end Installing

namespace Scenario

variable {σ : Type}

/-- The interrupts of a schedule, which says before which accesses which steps happen. -/
def scheduled (schedule : List (Nat × List Step)) (n : Nat) : List Step :=
  (schedule.filter fun i => i.1 == n).flatMap fun i => i.2

/-- How a capture of an event changes the state, its outcome, and the outcomes of the steps that
happened inside. -/
abbrev Capturing (σ : Type) :=
  Bytes → State σ → State σ × Except CallError (Report Bytes) × List Outcome

mutual

/-- The state after a step, the step's answer, and the outcomes of the steps inside. -/
def stepWith (S : Scenario σ) (capture : Capturing σ) :
    Step → State σ → State σ × Answer × List Outcome
  | .getDescriptors buffer length count, m =>
    let (m, a) := S.source.getDescriptors m buffer length count
    (m, .descriptors a, [])
  | .descriptor, m => (m, .descriptor (S.source.descriptor m), [])
  | .handleEvent buffer size, m =>
    let (m, a, os) := S.source.handleEvent capture m buffer size
    (m, .event a, os)
  | .handle buffer size, m =>
    let (m, a, os) := S.source.handle capture m buffer size
    (m, .handler a, os)
  | .dispatch buffer size, m =>
    if m.core.handler then
      let (m, a, os) := S.source.handle capture m buffer size
      (m, .handler a, os)
    else (m, .noHandler, [])
  | .callInterface call, m =>
    if m.core.interface then
      let (m, a) := S.source.callInterface m call
      (m, .interface a, [])
    else (m, .noInterface, [])
  | .withRegion inside, m =>
    match m.hold.share? with
    | none => (m, .region (.error .reentrant), [])
    | some hold =>
      let region := m.region
      let (m, os) := stepsWith S capture inside { m with hold := hold }
      ({ m with hold := m.hold.unshare }, .region (.ok region), os)
  | .config, m => (m, .config S.source.config, [])
  | .install replies onRegister onInstall onUnregister, m =>
    let services := Installing.services replies (stepsWith S capture onRegister)
      (stepsWith S capture onInstall) (stepsWith S capture onUnregister)
    let (w, result) := installSource services S.source.config ⟨m, [], []⟩
    (w.state, .installed result w.calls, w.inside)
  | .outside event, m => (m.outside event, .done, [])

/-- The state after some steps in order, and their outcomes. -/
def stepsWith (S : Scenario σ) (capture : Capturing σ) :
    List Step → State σ → State σ × List Outcome
  | [], m => (m, [])
  | s :: rest, m =>
    let (m, a, inside) := stepWith S capture s m
    let after := m.view
    let (m, os) := stepsWith S capture rest m
    (m, .mk s a inside after :: os)

end

/-- A stand-in for captures inside of a capture, where there are none. -/
def noCapture : Capturing σ :=
  fun _ m => (m, .error .reentrant, [])

/-- What interrupts the next access through a bus. Captures inside would be carried out by
`nested`. -/
def interrupt (S : Scenario σ) (nested : Capturing σ) (m : State σ) :
    Bus → State σ × List Outcome
  | .bank => S.stepsWith nested (S.interrupts m.platform.accesses.length) m
  | .device => (m, [])

/-- Carries out a capture. Captures inside would be carried out by `nested`. -/
def perform (S : Scenario σ) (nested : Capturing σ) : Capture Step Answer σ → State σ →
    State σ × Except CallError (Report Bytes) × List Outcome
  | .finish inner outcome, m => ({ m with inner := inner }, outcome, [])
  | .log message next, m => S.perform nested next (m.say [message])
  | .record access next, m =>
    S.perform nested next { m with platform := m.platform.record access }
  | .load bus address next, m =>
    let (m, first) := S.interrupt nested m bus
    let value := m.platform.peek bus address
    let (m, outcome, rest) :=
      S.perform nested (next value) { m with platform := m.platform.load bus address }
    (m, outcome, first ++ rest)
  | .store bus address value next, m =>
    let (m, first) := S.interrupt nested m bus
    let (m, outcome, rest) :=
      S.perform nested next { m with platform := m.platform.store bus address value }
    (m, outcome, first ++ rest)
  | .call request next, m =>
    let (m, a, inside) := S.stepWith nested request m
    let after := m.view
    let (m, outcome, rest) := S.perform nested (next a) m
    (m, outcome, .mk request a inside after :: rest)

/-- Captures an event. -/
def capture (S : Scenario σ) : Capturing σ :=
  fun event m => S.perform noCapture (S.source.source.capture m.inner event) m

/-- The state after a step, and the step's outcome. -/
def step (S : Scenario σ) (s : Step) (m : State σ) : State σ × Outcome :=
  let (m, a, inside) := S.stepWith S.capture s m
  (m, .mk s a inside m.view)

/-- The state after some steps in order, and their outcomes. -/
def run (S : Scenario σ) : List Step → State σ → State σ × List Outcome :=
  S.stepsWith S.capture

/-- The outcome of each of some steps, with the state after it. -/
def history (S : Scenario σ) : List Step → State σ → List (Outcome × State σ)
  | [], _ => []
  | s :: rest, m =>
    let (m, o) := S.step s m
    (o, m) :: S.history rest m

end Scenario
end FirmwareFirst
