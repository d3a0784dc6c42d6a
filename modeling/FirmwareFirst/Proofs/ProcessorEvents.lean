import FirmwareFirst.Proofs.SharedMemory
import FirmwareFirst.Source.Processor

/-!
# Events of the processor error source

The processor error source captures an event without a look at anything but the event: it logs one
message, calls nobody, and its report is that of the snapshot at the front of the payload.
-/

namespace FirmwareFirst

namespace ProcessorSnapshot

theorem layout_size : layout.size = 624 := rfl

/-- The report of the snapshot at the front of a payload. -/
def reportOf (payload : Bytes) : Report Bytes :=
  (layout.decode payload).report.map ProcessorSection.layout.encode

theorem reportOf_take {payload : Bytes} (h : layout.size ≤ payload.length) :
    reportOf (payload.take layout.size) = reportOf payload := by
  rw [reportOf, reportOf, layout.decode_take h]

theorem length_reportOf (payload : Bytes) :
    (reportOf payload).content.length = ProcessorSection.layout.size :=
  ProcessorSection.layout.length_encode _

end ProcessorSnapshot

namespace Scenario

variable {S : Scenario Unit}

theorem capture_of_processor (hsource : S.source.source = processorSource) (event : Bytes)
    (m : State Unit) : S.capture event m = S.perform noCapture (captureProcessor event) m := by
  rw [capture, hsource]
  rfl

/-- **What comes of the capture of a snapshot.** -/
theorem capture_processor (hsource : S.source.source = processorSource) {event : Bytes}
    (h : ProcessorSnapshot.layout.size ≤ event.length) (m : State Unit) :
    S.capture event m =
      (m.say [(ProcessorSnapshot.layout.decode event).encodedMessage],
        .ok (ProcessorSnapshot.reportOf event), []) := by
  rw [capture_of_processor hsource, captureProcessor, ProcessorSnapshot.layout.read_front h]
  rfl

/-- The event that is captured is the snapshot at the front of the payload. -/
theorem accept_processor (hsource : S.source.source = processorSource) {m : State Unit}
    {buffer : Option Bytes} {size : Option Nat} {event : Bytes}
    (h : S.source.accept m buffer size = .ok event) :
    ∃ b, buffer = some b ∧ ProcessorSnapshot.layout.size ≤ b.length ∧
      event = b.take ProcessorSnapshot.layout.size ∧
      ProcessorSnapshot.layout.size ≤ event.length := by
  have hsize : S.source.source.eventSize = ProcessorSnapshot.layout.size := by
    rw [hsource]
    rfl
  obtain ⟨b, n, hbuffer, -, -, hb, -, -, -, rfl⟩ := S.source.accept_eq_ok_iff.1 h
  rw [hsize] at hb ⊢
  exact ⟨b, hbuffer, hb, rfl, Nat.le_of_eq (List.length_take_of_le hb).symm⟩

/-- Nothing happens while a snapshot is captured. -/
theorem inside_processor (hsource : S.source.source = processorSource) {s : Step}
    (hs : s.isSingle = true) (m : State Unit) : (S.stepWith S.capture s m).2.2 = [] := by
  rcases heq : S.stepWith S.capture s m with ⟨m', a, inside⟩
  cases effect_of_eq hs heq with
  | idle => rfl
  | published => rfl
  | stuck => rfl
  | outside => rfl
  | handled messages _ haccept hcap =>
    obtain ⟨b, -, -, -, hevent⟩ := accept_processor hsource haccept
    rw [capture_processor hsource hevent] at hcap
    cases hcap
    rfl

end Scenario

/-! ## A processor -/

namespace Sample

/-- The processor error source, which nothing interrupts. -/
def processorScenario : Scenario Unit where
  source := ⟨⟨9, 0x81, descriptorProtocol, 0x2000, 1000⟩, processorSource⟩
  interrupts _ := []

/-- Memory for its sections that holds one byte over and over, with some bytes to spare. -/
def processorRegion (byte : UInt8) : Region :=
  ⟨0x2000, List.replicate 1000 byte, 864, false, by rw [List.length_replicate]; decide⟩

/-- The source at its start. -/
def processorStart (byte : UInt8) : State Unit :=
  ⟨processorRegion byte, .free, (), false, ⟨false, false⟩, platform⟩

end Sample
end FirmwareFirst
