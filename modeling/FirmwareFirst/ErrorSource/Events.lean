import FirmwareFirst.ErrorSource.State

/-!
# Handling events

An error event goes through three stages. `accept` decides whether it can be captured at all and, if
not, why; the event source captures it, while the region is held for it alone; and `publish` puts
the report into the region. How a capture is carried out is a parameter here, because captures may
call the error source in turn.
-/

namespace FirmwareFirst

/-- The outcome of an event, if the call returns, and what the caller's size variable holds
afterwards. -/
structure EventAnswer where
  result : Option (Except CallError Unit)
  size : Option Nat

/-- The status of a handler call, if it returns, and what the caller's variables hold afterwards. -/
structure HandlerAnswer where
  status : Option Status
  size : Option Nat
  buffer : Option Bytes
deriving DecidableEq

namespace ErrorSource

variable {κ ρ σ ω : Type}

/-- The bytes to capture of an event in `buffer`, which has `size` bytes, if it can be captured. -/
def accept (E : ErrorSource κ ρ σ) (m : State σ) (buffer : Option Bytes) (size : Option Nat) :
    Except Rejection Bytes :=
  match buffer, size with
  | some b, some n =>
    if n < E.source.eventSize ∨ b.length < E.source.eventSize then
      .error ⟨.badBufferSize, [.eventTooShort n E.source.eventSize]⟩
    else if m.hold ≠ .free then .error ⟨.reentrant, []⟩
    else if !m.region.prepared then .error ⟨.notReady, [.eventTooEarly E.config.sourceId]⟩
    else if m.capturing then .error ⟨.reentrant, []⟩
    else .ok (b.take E.source.eventSize)
  | _, _ => .error ⟨.invalidParameter, []⟩

/-- Puts what was captured into the region, and says whether that worked, unless the call never
returns. -/
def publish (E : ErrorSource κ ρ σ) (m : State σ) (outcome : Except CallError (Report Bytes)) :
    State σ × Option (Except CallError Unit) :=
  match outcome with
  | .error e => (m, some (.error e))
  | .ok report =>
    match m.region.publish E.source.sectionType report with
    | (region, some (log, result)) => ({ m with region := region }.say log, some result)
    | (region, none) => ({ m with region := region }, none)

/-- Handles an event. The last part of the answer is what `capture` adds to it. -/
def handleEvent (E : ErrorSource κ ρ σ)
    (capture : Bytes → State σ → State σ × Except CallError (Report Bytes) × List ω)
    (m : State σ) (buffer : Option Bytes) (size : Option Nat) :
    State σ × EventAnswer × List ω :=
  match E.accept m buffer size with
  | .error r => (m.say r.log, ⟨some (.error r.error), size⟩, [])
  | .ok event =>
    let (m, outcome, added) := capture event m.lock
    match E.publish m outcome with
    | (m, some (.ok ())) => (m.unlock, ⟨some (.ok ()), some 0⟩, added)
    | (m, some (.error e)) => (m.unlock, ⟨some (.error e), size⟩, added)
    | (m, none) => (m, ⟨none, size⟩, added)

/-- Handles an event as the handler that the firmware core dispatches to. -/
def handle (E : ErrorSource κ ρ σ)
    (capture : Bytes → State σ → State σ × Except CallError (Report Bytes) × List ω)
    (m : State σ) (buffer : Option Bytes) (size : Option Nat) :
    State σ × HandlerAnswer × List ω :=
  let (m, a, added) := E.handleEvent capture m buffer size
  let status := a.result.map Status.ofResult
  let m := match status with
    | some status =>
      if status.isError then m.say [.handlerFailed E.config.sourceId status] else m
    | none => m
  (m, ⟨status, a.size, buffer⟩, added)

end ErrorSource
end FirmwareFirst
