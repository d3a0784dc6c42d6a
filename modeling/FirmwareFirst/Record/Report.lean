import FirmwareFirst.Record.BlockStatus
import FirmwareFirst.Record.Severity

/-!
# Reports

A report is what an error source makes of one error: a section, and the summary of it that goes into
the header of the status block and into the data entry.
-/

namespace FirmwareFirst

/-- What the status header and the data entry say of a section. -/
structure Summary where
  severity : Severity
  /-- The block status but for the entry count. -/
  blockStatus : BlockStatus
  /-- The flags of the data entry. -/
  flags : UInt8
deriving DecidableEq

/-- A section of type `α` and its summary. -/
structure Report (α : Type) where
  summary : Summary
  content : α
deriving DecidableEq

/-- The report with its section changed by `f`. -/
def Report.map {α β : Type} (f : α → β) (r : Report α) : Report β :=
  ⟨r.summary, f r.content⟩

end FirmwareFirst
