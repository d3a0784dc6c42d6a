import FirmwareFirst.Source.Capture

/-!
# Playback sources

A playback source stands in for hardware: what it does with its first, second and further events is
laid down beforehand. Each event is recorded, then some calls are made, then the capture ends with
the prepared outcome. When all prepared captures have been played, the last one is played again.
-/

namespace FirmwareFirst

/-- A prepared capture. -/
structure Prepared (κ : Type) where
  calls : List κ
  outcome : Except CallError (Report Bytes)

/-- The capture to play for event number `n`. -/
def Prepared.pick? {κ : Type} (captures : List (Prepared κ)) (n : Nat) : Option (Prepared κ) :=
  captures[n]? <|> captures.getLast?

/-- Plays one of `captures`; with none there is nothing to report. -/
def playCapture {κ ρ : Type} (captures : List (Prepared κ)) (n : Nat) (event : Bytes) :
    Capture κ ρ Nat :=
  match Prepared.pick? captures n with
  | none => .record (.capture event) <| .finish (n + 1) (.error .notReady)
  | some c => .record (.capture event) <| .callAll c.calls <| .finish (n + 1) c.outcome

/-- The source that plays `captures`. -/
def playbackSource {κ ρ : Type} (sectionType : Guid) (maxSection eventSize : Nat)
    (captures : List (Prepared κ)) : EventSource κ ρ Nat where
  sectionType := sectionType
  maxSection := maxSection
  eventSize := eventSize
  initial := 0
  capture := playCapture captures

end FirmwareFirst
