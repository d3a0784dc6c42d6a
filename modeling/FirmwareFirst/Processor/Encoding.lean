import FirmwareFirst.Message
import FirmwareFirst.Processor.Snapshot
import FirmwareFirst.Record.Report
import FirmwareFirst.Record.StatusBlock

/-!
# Processor error reports

The report of a processor snapshot. Registers are reported only of a processor in its non-secure
state; of any other the contexts are zero and none is counted. The section has the same length
either way, so that the status block never changes its length.
-/

namespace FirmwareFirst.ProcessorSnapshot

/-- The error that a snapshot tells of. -/
def error (s : ProcessorSnapshot) : ProcessorError where
  version := ProcessorError.currentVersion
  length := UInt8.ofNat ProcessorError.layout.size
  validFields := ProcessorError.errorCountValid ||| ProcessorError.flagsValid |||
    ProcessorError.faultValid ||| ProcessorError.physicalAddressValid
  errorType := s.fault.kind.code
  errorCount := if s.isDeferred then 0 else s.count
  flags :=
    if s.isCorrected then if s.isOverflowed then ProcessorError.overflowFlag else 0
    else ProcessorError.firstErrorFlag
  fault := s.fault.bits
  virtualAddress := 0
  physicalAddress := s.address

/-- The section header of a snapshot's report. -/
def header (s : ProcessorSnapshot) : ProcessorHeader where
  validFields := ProcessorHeader.mpidrValid ||| ProcessorHeader.runningStateValid
  errorCount := 1
  contextCount := if s.isNonSecure then UInt16.ofNat sectionContextCount else 0
  sectionLength := UInt32.ofNat ProcessorSection.layout.size
  affinityLevel := 0
  reserved := Vector.replicate 3 0
  mpidr := s.el1[el1MpidrIndex]
  midr := s.el1[el1MidrIndex]
  runningState := 1
  powerState := 0

/-- The register contexts of a snapshot's report. -/
def contexts (s : ProcessorSnapshot) : Vector RegisterContext sectionContextCount :=
  if s.isNonSecure then
    #v[.ofRegisters .general64 s.general.toList,
      .ofRegisters .el1Of64 s.el1.toList,
      .ofRegisters .el2Of64 s.el2.toList]
  else Vector.replicate sectionContextCount .zero

/-- The section of a snapshot's report. -/
def toSection (s : ProcessorSnapshot) : ProcessorSection :=
  ⟨s.header, s.error, s.contexts⟩

/-- The summary of a snapshot's report. -/
def summary (s : ProcessorSnapshot) : Summary where
  severity := if s.isCorrected then .corrected else .recoverable
  blockStatus :=
    (BlockStatus.empty.withCorrectable s.isCorrected).withUncorrectable (!s.isCorrected)
  flags :=
    (if s.isCorrected && s.isOverflowed then DataEntry.overflowFlag else 0) |||
      (if !s.isCorrected && s.isDeferred then DataEntry.latentFlag else 0)

/-- The report of a snapshot. -/
def report (s : ProcessorSnapshot) : Report ProcessorSection :=
  ⟨s.summary, s.toSection⟩

/-- What is logged when a snapshot is encoded. -/
def encodedMessage (s : ProcessorSnapshot) : Message :=
  .processorErrorEncoded s.summary.severity s.error.errorType s.isNonSecure

end FirmwareFirst.ProcessorSnapshot
