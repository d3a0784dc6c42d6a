import FirmwareFirst.Processor.Encoding
import FirmwareFirst.Source.Capture
import FirmwareFirst.Wire.Placement

/-!
# The processor error source

Its event is a snapshot of the processor and its report is that of the snapshot.
-/

namespace FirmwareFirst

/-- Captures a snapshot. -/
def captureProcessor {κ ρ : Type} (event : Bytes) : Capture κ ρ Unit :=
  match ProcessorSnapshot.layout.read .front event with
  | none => .finish () (.error .badBufferSize)
  | some (s, _) =>
    .log s.encodedMessage <| .finish () <| .ok <| s.report.map ProcessorSection.layout.encode

/-- The processor error source. -/
def processorSource {κ ρ : Type} : EventSource κ ρ Unit where
  sectionType := processorSectionType
  maxSection := ProcessorSection.layout.size
  eventSize := ProcessorSnapshot.layout.size
  initial := ()
  capture _ := captureProcessor

end FirmwareFirst
