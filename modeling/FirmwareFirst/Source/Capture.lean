import FirmwareFirst.Platform
import FirmwareFirst.Record.Report
import FirmwareFirst.Wire.Guid

/-!
# Captures

An event source turns the event of an error into a report. How it does so is a `Capture`: a tree of
actions, each followed by what the source does next, depending on what it was told. Actions read and
write registers, log, and call the error source the event came in through; what such calls are and
what they answer is left open as `κ` and `ρ`. A source that calls nobody can be run on a platform
alone.
-/

namespace FirmwareFirst

/-- What an event source does to capture an error, when its calls are of type `κ`, answers to them
of type `ρ` and its own state of type `σ`. -/
inductive Capture (κ ρ σ : Type) where
  /-- The capture is over and leaves the source in `state`. -/
  | finish (state : σ) (outcome : Except CallError (Report Bytes))
  | log (message : Message) (next : Capture κ ρ σ)
  | record (access : Access) (next : Capture κ ρ σ)
  | load (bus : Bus) (address : UInt64) (next : UInt32 → Capture κ ρ σ)
  | store (bus : Bus) (address : UInt64) (value : UInt32) (next : Capture κ ρ σ)
  | call (request : κ) (next : ρ → Capture κ ρ σ)

namespace Capture

variable {κ ρ σ : Type}

/-- Makes some calls, whatever they answer, and goes on. -/
def callAll (requests : List κ) (next : Capture κ ρ σ) : Capture κ ρ σ :=
  requests.foldr (fun r k => .call r fun _ => k) next

/-- The platform after a capture that makes no calls, the state of the source and the outcome. -/
def runAlone : Capture Empty ρ σ → Platform → Platform × σ × Except CallError (Report Bytes)
  | finish state outcome, p => (p, state, outcome)
  | log message next, p => next.runAlone (p.say [message])
  | record access next, p => next.runAlone (p.record access)
  | load bus address next, p => (next (p.peek bus address)).runAlone (p.load bus address)
  | store bus address value next, p => next.runAlone (p.store bus address value)
  | call request _, _ => nomatch request

end Capture

/-- A producer of reports. -/
structure EventSource (κ ρ σ : Type) where
  /-- The type of the sections it produces. -/
  sectionType : Guid
  /-- The length of the largest of them. -/
  maxSection : Nat
  /-- The length of an event. -/
  eventSize : Nat
  /-- The state it starts in. -/
  initial : σ
  /-- How it captures an event in a state. -/
  capture : σ → Bytes → Capture κ ρ σ

/-- The outcomes of some events in order for a source that calls nobody, which finds itself in
`state`, each with the platform after it. -/
def EventSource.captureAlone {ρ σ : Type} (s : EventSource Empty ρ σ) (state : σ) :
    List Bytes → Platform → List (Except CallError (Report Bytes) × Platform)
  | [], _ => []
  | event :: rest, p =>
    let (p, state, outcome) := (s.capture state event).runAlone p
    (outcome, p) :: s.captureAlone state rest p

end FirmwareFirst
