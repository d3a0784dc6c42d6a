import FirmwareFirst.Ram.Encoding
import FirmwareFirst.Source.Capture
import FirmwareFirst.Wire.Placement

/-!
# The RAM error source

Its event names a bank of error record registers. The source reads the three registers of the bank
and then writes the status it has read back to the status register, which clears the very bits that
go into the report.
-/

namespace FirmwareFirst

/-- Captures the record of the bank that the event names. -/
def captureRam {κ ρ : Type} (bus : Bus) (config : RamConfig) (event : Bytes) :
    Capture κ ρ Unit :=
  match RamEvent.layout.read .front event with
  | none => .finish () (.error .badBufferSize)
  | some (e, _) =>
    let format := config.format
    let base := config.base e.isNonSecure
    .load bus (base + format.statusOffset) fun status =>
    .load bus (base + format.codeOffset) fun code =>
    .load bus (base + format.addressOffset) fun address =>
    .store bus (base + format.statusOffset) status <|
    .log (.ramRecordRead base status code address) <|
    let record : RamRecord := ⟨status, code, address⟩
    .log (record.encodedMessage format) <|
    .finish () <| .ok <| (record.report format).map MemorySection.layout.encode

/-- The RAM error source that reaches its registers through `bus`. -/
def ramSource {κ ρ : Type} (bus : Bus) (config : RamConfig) : EventSource κ ρ Unit where
  sectionType := memorySectionType
  maxSection := MemorySection.layout.size
  eventSize := RamEvent.layout.size
  initial := ()
  capture _ := captureRam bus config

end FirmwareFirst
