/-!
# Statuses and call errors

A call into an error source fails with a `CallError`, which says why. Where the caller is the
firmware core, the error is handed over as a `Status`, a word whose two top bits tell errors from
successes.
-/

namespace FirmwareFirst

/-- The status word that calls of the firmware core return. -/
structure Status where
  raw : UInt64
deriving DecidableEq

namespace Status

/-- The call did what it was asked to do. -/
def success : Status := ⟨0⟩

/-- The error status with number `n`. -/
def ofError (n : UInt64) : Status := ⟨0x8000000000000000 ||| n⟩

def invalidParameter : Status := ofError 2

def badBufferSize : Status := ofError 4

def bufferTooSmall : Status := ofError 5

def notReady : Status := ofError 6

def outOfResources : Status := ofError 9

def accessDenied : Status := ofError 15

/-- Whether a status is an error: of its two top bits, the upper one alone is set. -/
def isError (s : Status) : Bool :=
  s.raw &&& 0xc000000000000000 == 0x8000000000000000

/-- The text of a status in log messages. -/
def text (s : Status) : String :=
  "Status(" ++ toString s.raw.toNat ++ ")"

end Status

/-- Why a call into an error source, or its set-up, fails. -/
inductive CallError
  /-- A buffer, a size, a length or a count is missing. -/
  | invalidParameter
  /-- The buffer is shorter than the event that the source expects. -/
  | badBufferSize
  /-- The descriptor buffer is missing or too short. -/
  | bufferTooSmall
  /-- The region cannot hold a status block and the acknowledgement. -/
  | regionTooSmall
  /-- The section is larger than the region was laid out for. -/
  | sectionTooLarge
  /-- The descriptor has not been published yet. -/
  | notReady
  /-- The error source is in use by a call that has not returned yet. -/
  | reentrant
  /-- The firmware core failed with a status of its own. -/
  | core (status : Status)
deriving DecidableEq

namespace CallError

/-- The status that an error is handed over as. -/
def status : CallError → Status
  | invalidParameter => .invalidParameter
  | badBufferSize => .badBufferSize
  | bufferTooSmall => .bufferTooSmall
  | regionTooSmall => .outOfResources
  | sectionTooLarge => .badBufferSize
  | notReady => .notReady
  | reentrant => .accessDenied
  | core s => s

/-- The text of an error in log messages. -/
def text : CallError → String
  | invalidParameter => "InvalidParameter"
  | badBufferSize => "BadBufferSize"
  | bufferTooSmall => "BufferTooSmall"
  | regionTooSmall => "RegionTooSmall"
  | sectionTooLarge => "SectionTooLarge"
  | notReady => "NotReady"
  | reentrant => "Reentrant"
  | core s => "Mm(" ++ s.text ++ ")"

end CallError

/-- The status that the outcome of a call is handed over as. -/
def Status.ofResult : Except CallError Unit → Status
  | .ok () => .success
  | .error e => e.status

end FirmwareFirst
