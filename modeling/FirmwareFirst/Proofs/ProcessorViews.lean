import FirmwareFirst.Proofs.Bits
import FirmwareFirst.Proofs.Secrecy

/-!
# Views of one processor error

Whether a processor error was corrected, deferred or lost others is told in several places of its
report: in the severity, in the block status, in the flags of the data entry and of the error, in
the error count and among the fault bits. `processor_views_agree` says bit for bit what is told in
each of them, so that all of them tell the same, and that nothing else of the status register and of
the miscellaneous register is told at all.
-/

namespace FirmwareFirst

/-! ## Fault bits -/

/-- The fault bits, one by one. -/
theorem FaultDetail.testBit_bits (d : FaultDetail) {i : Nat} (hi : i < 64) :
    d.bits.toNat.testBit i =
      (decide (i < 5) ||
        (decide (16 ≤ i ∧ i < 18) && d.transaction.code.toNat.testBit (i - 16)) ||
        (decide (18 ≤ i ∧ i < 22) && d.operation.toNat.testBit (i - 18)) ||
        (decide (22 ≤ i ∧ i < 25) && d.level.toNat.testBit (i - 22)) ||
        (decide (i = 25) && d.contextCorrupt) || (decide (i = 26) && d.corrected)) := by
  have hvalid : ∀ i < 64, (0x1f : UInt64).toNat.testBit i = decide (i < 5) := by decide
  have hcorrupt : ∀ i < 64, (0x2000000 : UInt64).toNat.testBit i = decide (i = 25) := by decide
  have hcorrected : ∀ i < 64, (0x4000000 : UInt64).toNat.testBit i = decide (i = 26) := by decide
  have hflag : ∀ (set : Bool) (flag : UInt64),
      (if set then flag else 0).toNat.testBit i = (flag.toNat.testBit i && set) := by
    intro set flag
    cases set <;> simp
  have hfield : ∀ (a mask b : UInt64) (width : Nat),
      (∀ i < 64, mask.toNat.testBit i = decide (i < width)) → b.toNat < 64 →
        ((a &&& mask) <<< b).toNat.testBit i =
          (decide (b.toNat ≤ i ∧ i < b.toNat + width) && a.toNat.testBit (i - b.toNat)) :=
    fun a mask b width hmask hb => testBit_field a hmask hb hi
  rw [bits]
  simp only [testBit_or, hflag]
  rw [hvalid i hi, hcorrupt i hi, hcorrected i hi, hfield _ 0x3 16 2 (by decide) (by decide),
    hfield _ 0xf 18 4 (by decide) (by decide), hfield _ 0x7 22 3 (by decide) (by decide),
    UInt8.toNat_toUInt64, UInt8.toNat_toUInt64]
  rfl

namespace ProcessorSnapshot

variable {s : ProcessorSnapshot}

/-! ## What is read of the registers -/

theorem isCorrected_eq_testBit (s : ProcessorSnapshot) :
    s.isCorrected = (s.status.toNat.testBit 24 || s.status.toNat.testBit 25) := by
  rw [isCorrected, and_bne_zero s.status [24, 25] (by decide) (by decide)]
  simp

theorem isDeferred_eq_testBit (s : ProcessorSnapshot) :
    s.isDeferred = s.status.toNat.testBit 23 := by
  rw [isDeferred, and_bne_zero s.status [23] (by decide) (by decide)]
  simp

theorem isOverflowed_eq_testBit (s : ProcessorSnapshot) :
    s.isOverflowed = s.status.toNat.testBit 27 := by
  rw [isOverflowed, and_bne_zero s.status [27] (by decide) (by decide)]
  simp

theorem testBit_level (s : ProcessorSnapshot) {i : Nat} (hi : i < 3) :
    s.level.toNat.testBit i = s.misc.toNat.testBit (i + 1) := by
  have hmask : ∀ i < 3, levelMask.toNat.testBit (levelShift.toNat + i) = true := by decide
  rw [level, UInt64.toNat_toUInt8, Nat.testBit_mod_two_pow, decide_eq_true (by omega),
    testBit_shiftRight _ (by decide), testBit_and, hmask i hi, Bool.true_and, Bool.and_true,
    Nat.add_comm]
  rfl

theorem testBit_count (s : ProcessorSnapshot) {i : Nat} (hi : i < 16) :
    s.count.toNat.testBit i = (decide (i < 8) && s.misc.toNat.testBit (32 + i)) := by
  have hmask : ∀ i < 16, countMask.toNat.testBit (countShift.toNat + i) = decide (i < 8) := by
    decide
  rw [count, UInt64.toNat_toUInt16, Nat.testBit_mod_two_pow, decide_eq_true hi,
    testBit_shiftRight _ (by decide), testBit_and, hmask i hi, Bool.true_and, Bool.and_comm]
  rfl

theorem errorCode_lt_iff (s : ProcessorSnapshot) :
    s.status &&& errorCodeMask < translationBufferCode ↔ s.status.toNat % 256 < 8 := by
  have hmask : errorCodeMask.toNat = 2 ^ 8 - 1 := rfl
  rw [UInt64.lt_iff_toNat_lt, UInt64.toNat_and, hmask, Nat.and_two_pow_sub_one_eq_mod]
  rfl

/-! ## What is told of them -/

/-- The detail of a fault does not depend on its kind. -/
theorem bits_fault (s : ProcessorSnapshot) :
    s.fault.bits =
      FaultDetail.bits ⟨.generic, genericOperation, s.level, false, s.isCorrected⟩ := by
  unfold fault
  split <;> rfl

theorem errorType_eq (s : ProcessorSnapshot) :
    s.error.errorType = if s.status.toNat % 256 < 8 then 0 else 1 := by
  simp only [error, fault, errorCode_lt_iff]
  split <;> rfl

theorem testBit_fault (s : ProcessorSnapshot) {i : Nat} (hi : i < 64) :
    s.error.fault.toNat.testBit i =
      (decide (i < 5) || decide (i = 17) ||
        (decide (22 ≤ i ∧ i < 25) && s.misc.toNat.testBit (i - 21)) ||
        (decide (i = 26) && s.isCorrected)) := by
  have hgeneric : ∀ i < 64, (decide (16 ≤ i ∧ i < 18) &&
      Transaction.generic.code.toNat.testBit (i - 16)) = decide (i = 17) := by
    decide
  have hlevel : (decide (22 ≤ i ∧ i < 25) && s.level.toNat.testBit (i - 22)) =
      (decide (22 ≤ i ∧ i < 25) && s.misc.toNat.testBit (i - 21)) := by
    by_cases h : 22 ≤ i ∧ i < 25
    · rw [s.testBit_level (by omega), show i - 22 + 1 = i - 21 by omega]
    · simp [h]
  have hoperation : genericOperation.toNat.testBit (i - 18) = false := Nat.zero_testBit _
  rw [error, bits_fault, FaultDetail.testBit_bits _ hi, hgeneric i hi, hlevel, hoperation]
  simp

/-- What the report of a snapshot tells of an error that was corrected if `c` says so, that lost
others if `o` does, and that was deferred if `d` does. -/
structure Views (s : ProcessorSnapshot) (c o d : Bool) : Prop where
  severity : s.report.summary.severity = if c then .corrected else .recoverable
  /-- One bit of the block status is set: that of a correctable error or of an uncorrectable one. -/
  blockStatus : ∀ i < 32, s.report.summary.blockStatus.bits.toNat.testBit i =
    decide (i = if c then 1 else 0)
  /-- In the data entry, the overflow flag and the flag of a latent error. -/
  entryFlags : ∀ i < 8, s.report.summary.flags.toNat.testBit i =
    (decide (i = 7) && c && o || decide (i = 5) && !c && d)
  /-- In the error, the overflow flag and the flag of the first error captured. -/
  errorFlags : ∀ i < 8, s.report.content.error.flags.toNat.testBit i =
    (decide (i = 3) && c && o || decide (i = 0) && !c)
  overflow : (s.report.content.error.flags &&& ProcessorError.overflowFlag != 0) =
    (s.report.summary.flags &&& DataEntry.overflowFlag != 0)
  errorCount : ∀ i < 16, s.report.content.error.errorCount.toNat.testBit i =
    (!d && decide (i < 8) && s.misc.toNat.testBit (32 + i))
  /-- Five fields are valid, and the transaction is a generic one. -/
  fault : ∀ i < 64, s.report.content.error.fault.toNat.testBit i =
    (decide (i < 5) || decide (i = 17) ||
      (decide (22 ≤ i ∧ i < 25) && s.misc.toNat.testBit (i - 21)) || (decide (i = 26) && c))
  errorType : s.report.content.error.errorType = if s.status.toNat % 256 < 8 then 0 else 1

theorem views (s : ProcessorSnapshot) : s.Views s.isCorrected s.isOverflowed s.isDeferred := by
  refine ⟨rfl, ?_, ?_, ?_, ?_, ?_, fun i => s.testBit_fault, s.errorType_eq⟩
  · simp only [report, summary]
    cases s.isCorrected <;> decide
  · simp only [report, summary]
    cases s.isCorrected <;> cases s.isOverflowed <;> cases s.isDeferred <;> decide
  · simp only [report, toSection, error]
    cases s.isCorrected <;> cases s.isOverflowed <;> decide
  · simp only [report, summary, toSection, error]
    cases s.isCorrected <;> cases s.isOverflowed <;> cases s.isDeferred <;> decide
  · intro i hi
    simp only [report, toSection, error]
    cases s.isDeferred
    · simpa using s.testBit_count hi
    · simp

/-! ## What is not told -/

/-- The bits of the status register that are told. -/
def statusBits : List Nat := [0, 1, 2, 3, 4, 5, 6, 7, 23, 24, 25, 27]

/-- The bits of the miscellaneous register that are told. -/
def miscBits : List Nat := [1, 2, 3, 32, 33, 34, 35, 36, 37, 38, 39]

/-- The snapshot with some bits of its status register and of its miscellaneous register flipped. -/
def flip (s : ProcessorSnapshot) (status misc : UInt64) : ProcessorSnapshot :=
  { s with status := s.status ^^^ status, misc := s.misc ^^^ misc }

section flip

variable {status misc : UInt64} (hstatus : ∀ i ∈ statusBits, status.toNat.testBit i = false)
  (hmisc : ∀ i ∈ miscBits, misc.toNat.testBit i = false)

include hmisc in
theorem misc_flip {mask : UInt64}
    (hmask : ∀ i < 64, mask.toNat.testBit i = true → i ∈ miscBits) :
    (s.flip status misc).misc &&& mask = s.misc &&& mask :=
  xor_and fun i hi hset => hmisc i (hmask i hi hset)

include hstatus

/-- What is read of the status register through a mask of bits that are told. -/
theorem status_flip {mask : UInt64}
    (hmask : ∀ i < 64, mask.toNat.testBit i = true → i ∈ statusBits) :
    (s.flip status misc).status &&& mask = s.status &&& mask :=
  xor_and fun i hi hset => hstatus i (hmask i hi hset)

theorem isCorrected_flip : (s.flip status misc).isCorrected = s.isCorrected := by
  rw [isCorrected, status_flip hstatus (by decide), isCorrected]

theorem isDeferred_flip : (s.flip status misc).isDeferred = s.isDeferred := by
  rw [isDeferred, status_flip hstatus (by decide), isDeferred]

theorem isOverflowed_flip : (s.flip status misc).isOverflowed = s.isOverflowed := by
  rw [isOverflowed, status_flip hstatus (by decide), isOverflowed]

theorem summary_flip : (s.flip status misc).summary = s.summary := by
  rw [summary, isCorrected_flip hstatus, isDeferred_flip hstatus, isOverflowed_flip hstatus,
    summary]

include hmisc in
theorem error_flip : (s.flip status misc).error = s.error := by
  have hfault : (s.flip status misc).fault = s.fault := by
    rw [fault, level, misc_flip hmisc (by decide), status_flip hstatus (by decide),
      isCorrected_flip hstatus, fault, level]
  have hcount : (s.flip status misc).count = s.count := by
    rw [count, misc_flip hmisc (by decide), count]
  rw [error, hfault, hcount, isCorrected_flip hstatus, isDeferred_flip hstatus,
    isOverflowed_flip hstatus, error]
  rfl

end flip

/-- **All views of one processor error agree.** For every snapshot, with `c` if bit 24 or bit 25 of
its status register is set, `o` if bit 27 is and `d` if bit 23 is: severity, block status, flags,
error count and fault bits of the report tell of an error that was corrected if `c`, lost others if
`o` and was deferred if `d`. They tell nothing else of the status register but its error code, and
nothing of the miscellaneous register but the level and the count: when other bits of them are
flipped, the report and what is logged stay the same. -/
theorem processor_views_agree (s : ProcessorSnapshot) :
    s.Views (s.status.toNat.testBit 24 || s.status.toNat.testBit 25) (s.status.toNat.testBit 27)
      (s.status.toNat.testBit 23) ∧
    ∀ status misc : UInt64, (∀ i ∈ statusBits, status.toNat.testBit i = false) →
      (∀ i ∈ miscBits, misc.toNat.testBit i = false) →
        (s.flip status misc).report = s.report ∧
        (s.flip status misc).encodedMessage = s.encodedMessage := by
  constructor
  · rw [← isCorrected_eq_testBit, ← isDeferred_eq_testBit, ← isOverflowed_eq_testBit]
    exact s.views
  · intro status misc hstatus hmisc
    have hsummary : (s.flip status misc).summary = s.summary := summary_flip hstatus
    have herror : (s.flip status misc).error = s.error := error_flip hstatus hmisc
    constructor
    · rw [report, toSection, hsummary, herror, report, toSection]
      rfl
    · rw [encodedMessage, hsummary, herror, encodedMessage]
      rfl

end ProcessorSnapshot
/-- The error of the sample processor was corrected, and it is not told that its data is poisoned
nor which of its registers are valid. -/
theorem processor_views_agree_sample :
    (Sample.snapshot 1 5 4).report.summary.severity = .corrected ∧
    ((Sample.snapshot 1 5 4).flip 0xc4400000 0x1).report = (Sample.snapshot 1 5 4).report := by
  obtain ⟨hviews, hflip⟩ := (Sample.snapshot 1 5 4).processor_views_agree
  exact ⟨hviews.severity, (hflip 0xc4400000 0x1 (by decide) (by decide)).1⟩

end FirmwareFirst
