import FirmwareFirst.Message
import FirmwareFirst.Ram.ErrorRecord
import FirmwareFirst.Record.MemorySection
import FirmwareFirst.Record.Report

/-!
# RAM error reports

The report of a RAM error record. A corrected error wins over an uncorrected one; a record with
neither is reported all the same, as fatal and with no kind of error in the block status.
-/

namespace FirmwareFirst.RamRecord

/-- The bits of a reported address that count. -/
def addressMask : UInt64 := 0xffffffffffff

/-- The record is of a corrected error. -/
def isCorrected (r : RamRecord) (f : RamFormat) : Bool :=
  r.status &&& f.correctedBits != 0

/-- The record is of an uncorrected error and of no corrected one. -/
def isUncorrected (r : RamRecord) (f : RamFormat) : Bool :=
  !r.isCorrected f && r.status &&& f.uncorrectedBits != 0

/-- The multiplicity of the errors, where the code register tells one. -/
def multiplicity? (r : RamRecord) (f : RamFormat) : Option UInt32 :=
  if r.code = 0 then none else some ((r.code >>> f.multiplicityShift) &&& f.multiplicityMask)

/-- The summary of a record's report. -/
def summary (r : RamRecord) (f : RamFormat) : Summary where
  severity := if r.isCorrected f then .corrected else .fatal
  blockStatus :=
    (((BlockStatus.empty.withCorrectable (r.isCorrected f)).withUncorrectable
      (r.isUncorrected f)).withMultipleCorrectable
      (r.multiplicity? f == some f.multipleCorrected)).withMultipleUncorrectable
      (r.multiplicity? f == some f.multipleUncorrected)
  flags := 0

/-- The report of a record read as `f` says. -/
def report (r : RamRecord) (f : RamFormat) : Report MemorySection :=
  ⟨r.summary f, .ofAddress r.address.toUInt64 addressMask⟩

/-- What is logged when a record is encoded. -/
def encodedMessage (r : RamRecord) (f : RamFormat) : Message :=
  .memoryErrorEncoded (r.summary f).severity r.address

end FirmwareFirst.RamRecord
