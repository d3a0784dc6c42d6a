import FirmwareFirst.Record.ProcessorSection
import FirmwareFirst.Wire.Placement

/-!
# Reading processor error sections

How a processor error section is read by someone who knows nothing of who wrote it: the header says
how many errors and register contexts follow and how long the section is, each error and each
context says how long it is itself, and what is left behind the last context is vendor data. Reading
fails where one of these lengths leads past the end of the section.
-/

namespace FirmwareFirst

/-- A register context as it is found in a section. -/
structure ContextReading where
  /-- The number of the context's kind. -/
  kind : UInt16
  registers : Bytes
deriving DecidableEq

/-- What a processor error section is found to hold. -/
structure ProcessorReading where
  header : ProcessorHeader
  errors : List ProcessorError
  contexts : List ContextReading
  /-- What is left behind the last context. -/
  vendorData : Bytes
deriving DecidableEq

namespace ProcessorReading

/-- Reads `n` things one behind another, and answers what is left behind them. -/
def readMany {α : Type} (read : Bytes → Option (α × Bytes)) : Nat → Bytes → Option (List α × Bytes)
  | 0, bs => some ([], bs)
  | n + 1, bs => do
    let (a, bs) ← read bs
    let (rest, bs) ← readMany read n bs
    return (a :: rest, bs)

/-- Reads one error, which takes as many bytes as it says. -/
def readError (bs : Bytes) : Option (ProcessorError × Bytes) := do
  let (e, _) ← ProcessorError.layout.read .front bs
  if e.length.toNat ≤ bs.length then some (e, bs.drop e.length.toNat) else none

open Layout in
/-- Reads one context: its version, its kind, the length of its registers, and the registers. -/
def readContext (bs : Bytes) : Option (ContextReading × Bytes) := do
  let ((_, kind, length), bs) ← (uint16.pair <| uint16.pair uint32).read .front bs
  if length.toNat ≤ bs.length then
    some (⟨kind, bs.take length.toNat⟩, bs.drop length.toNat)
  else none

/-- Reads the section at the start of some bytes. -/
def ofBytes? (bs : Bytes) : Option ProcessorReading := do
  let (header, _) ← ProcessorHeader.layout.read .front bs
  if header.sectionLength.toNat ≤ bs.length then
    let body := (bs.take header.sectionLength.toNat).drop ProcessorHeader.layout.size
    let (errors, body) ← readMany readError header.errorCount.toNat body
    let (contexts, body) ← readMany readContext header.contextCount.toNat body
    return ⟨header, errors, contexts, body⟩
  else none

end ProcessorReading
end FirmwareFirst
