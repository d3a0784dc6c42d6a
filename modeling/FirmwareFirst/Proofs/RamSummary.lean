import FirmwareFirst.Proofs.StatusUpdates
import FirmwareFirst.Ram.Encoding

/-!
# What a RAM report tells

The severity of a RAM report and the kinds of error in its block status come from one register, the
multiplicities from another, and both are reported as they are. `RamRecord.summary_tells` says what
is told for all values of the two: the multiplicities go with the kinds if the registers do.
-/

namespace FirmwareFirst

/-! ## Flags of a block status -/

namespace BlockStatus

variable {s : BlockStatus} {flag other : UInt32}

theorem withFlag_and_self (set : Bool) :
    (s.withFlag flag set).bits &&& flag = if set then flag else 0 := by
  apply uint32_eq_of_testBit
  intro i hi
  rw [UInt32.toNat_and, Nat.testBit_and, testBit_withFlag s flag set hi]
  cases set <;> cases hflag : flag.toNat.testBit i <;> simp [hflag]

/-- Setting or clearing a flag leaves all other bits alone. -/
theorem withFlag_and_of_disjoint (h : flag &&& other = 0) (set : Bool) :
    (s.withFlag flag set).bits &&& other = s.bits &&& other := by
  apply uint32_eq_of_testBit
  intro i hi
  have hbit : (flag.toNat.testBit i && other.toNat.testBit i) = false := by
    rw [← Nat.testBit_and, ← UInt32.toNat_and, h]
    exact Nat.zero_testBit i
  rw [UInt32.toNat_and, Nat.testBit_and, testBit_withFlag s flag set hi, UInt32.toNat_and,
    Nat.testBit_and]
  -- Where the flag has a bit, the other word has none.
  cases hflag : flag.toNat.testBit i with
  | false => simp
  | true =>
    rw [hflag, Bool.true_and] at hbit
    simp [hbit]

theorem hasFlag_withFlag_self (h : flag ≠ 0) (set : Bool) :
    (s.withFlag flag set).hasFlag flag = set := by
  rw [hasFlag, withFlag_and_self]
  cases set <;> simp [h]

theorem hasFlag_withFlag_of_disjoint (h : flag &&& other = 0) (set : Bool) :
    (s.withFlag flag set).hasFlag other = s.hasFlag other := by
  rw [hasFlag, withFlag_and_of_disjoint h, hasFlag]

/-- The bits behind the flags, where the number of entries is. -/
def behindFlags : UInt32 := 0xfffffff0

theorem shiftRight_eq_zero (h : s.bits &&& behindFlags = 0) : s.bits >>> entryCountShift = 0 := by
  have hbehind : ∀ i < 28, behindFlags.toNat.testBit (4 + i) = true := by decide
  have hshift : entryCountShift.toNat % 32 = 4 := rfl
  apply uint32_eq_of_testBit
  intro i hi
  have hbit : (s.bits.toNat.testBit (4 + i) && behindFlags.toNat.testBit (4 + i)) = false := by
    rw [← Nat.testBit_and, ← UInt32.toNat_and, h]
    exact Nat.zero_testBit _
  rw [UInt32.toNat_shiftRight, hshift, Nat.testBit_shiftRight, UInt32.toNat_zero, Nat.zero_testBit]
  by_cases hlow : i < 28
  · rwa [hbehind i hlow, Bool.and_true] at hbit
  · exact Nat.testBit_lt_two_pow (Nat.lt_of_lt_of_le s.bits.toNat_lt
      (Nat.pow_le_pow_right (by decide) (by omega)))

end BlockStatus

/-! ## The summary of a record -/

/-- The severity of a summary goes with the kind of error, of which there is at most one, and so it
is with multiplicities; the number of entries is not set, nor is anything behind it. -/
structure Summary.Coherent (s : Summary) : Prop where
  corrected : s.severity = .corrected ↔ s.blockStatus.correctable = true
  kind : ¬ (s.blockStatus.correctable = true ∧ s.blockStatus.uncorrectable = true)
  multiplicity :
    ¬ (s.blockStatus.multipleCorrectable = true ∧ s.blockStatus.multipleUncorrectable = true)
  entryCount : s.blockStatus.entryCount = 0
  behind : s.blockStatus.bits >>> BlockStatus.entryCountShift = 0

/-- The multiplicities of a summary go with the kinds, too. -/
structure Summary.Consistent (s : Summary) : Prop extends s.Coherent where
  multipleCorrectable :
    s.blockStatus.multipleCorrectable = true → s.blockStatus.correctable = true
  multipleUncorrectable :
    s.blockStatus.multipleUncorrectable = true → s.blockStatus.uncorrectable = true

namespace RamRecord

open BlockStatus

variable (r : RamRecord) (f : RamFormat)

/-- The code register tells the multiplicity `n`. -/
def Tells (n : UInt32) : Prop :=
  r.code ≠ 0 ∧
    r.code.toNat >>> f.multiplicityShift.toNat &&& f.multiplicityMask.toNat = n.toNat

theorem multiplicity?_eq_some_iff {r : RamRecord} {f : RamFormat} {n : UInt32}
    (hshift : f.multiplicityShift < 32) : r.multiplicity? f = some n ↔ r.Tells f n := by
  have hmod : f.multiplicityShift.toNat % 32 = f.multiplicityShift.toNat := Nat.mod_eq_of_lt hshift
  have hfield : (r.code >>> f.multiplicityShift &&& f.multiplicityMask).toNat =
      r.code.toNat >>> f.multiplicityShift.toNat &&& f.multiplicityMask.toNat := by
    rw [UInt32.toNat_and, UInt32.toNat_shiftRight, hmod]
  rw [Tells, ← hfield, UInt32.toNat_inj, multiplicity?]
  split
  next hcode => simp [hcode]
  next hcode => simp [hcode]

@[simp] theorem correctable_summary : (r.summary f).blockStatus.correctable = r.isCorrected f := by
  simp (disch := decide) only [summary, correctable, withCorrectable, withUncorrectable,
    withMultipleCorrectable, withMultipleUncorrectable, hasFlag_withFlag_of_disjoint,
    hasFlag_withFlag_self]

@[simp] theorem uncorrectable_summary :
    (r.summary f).blockStatus.uncorrectable = r.isUncorrected f := by
  simp (disch := decide) only [summary, uncorrectable, withUncorrectable,
    withMultipleCorrectable, withMultipleUncorrectable, hasFlag_withFlag_of_disjoint,
    hasFlag_withFlag_self]

@[simp] theorem multipleCorrectable_summary : (r.summary f).blockStatus.multipleCorrectable =
    (r.multiplicity? f == some f.multipleCorrected) := by
  simp (disch := decide) only [summary, multipleCorrectable, withMultipleCorrectable,
    withMultipleUncorrectable, hasFlag_withFlag_of_disjoint, hasFlag_withFlag_self]

@[simp] theorem multipleUncorrectable_summary :
    (r.summary f).blockStatus.multipleUncorrectable =
      (r.multiplicity? f == some f.multipleUncorrected) := by
  simp (disch := decide) only [summary, multipleUncorrectable, withMultipleUncorrectable,
    hasFlag_withFlag_self]

theorem summary_and_behindFlags : (r.summary f).blockStatus.bits &&& behindFlags = 0 := by
  simp (disch := decide) only [summary, withCorrectable, withUncorrectable,
    withMultipleCorrectable, withMultipleUncorrectable, withFlag_and_of_disjoint]
  decide

theorem summary_coherent {r : RamRecord} {f : RamFormat}
    (hdistinct : f.multipleCorrected ≠ f.multipleUncorrected) : (r.summary f).Coherent := by
  have hbehind := shiftRight_eq_zero (r.summary_and_behindFlags f)
  refine ⟨?_, ?_, ?_, ?_, hbehind⟩
  · rw [correctable_summary, summary]
    cases r.isCorrected f <;> simp
  · rw [correctable_summary, uncorrectable_summary, isUncorrected]
    cases r.isCorrected f <;> simp
  · simp only [multipleCorrectable_summary, multipleUncorrectable_summary, beq_iff_eq]
    rintro ⟨hc, hu⟩
    rw [hc, Option.some.injEq] at hu
    exact hdistinct hu
  · rw [BlockStatus.entryCount, hbehind]
    decide

/-- **What the summary of a RAM report tells.** Let the multiplicity lie within the code register,
and let those of corrected and of uncorrected errors be told apart. For all values of the registers
the severity goes with the kind of error, of which there is at most one, and so it is with the
multiplicities. The kinds are those of the status register, where a corrected error wins; the
multiplicities are those of the code register, unless it is zero, and the status register has no
say in them. So the multiplicities go with the kinds if and only if those in the registers do. -/
theorem summary_tells (r : RamRecord) {f : RamFormat} (hshift : f.multiplicityShift < 32)
    (hdistinct : f.multipleCorrected ≠ f.multipleUncorrected) :
    (r.report f).summary.Coherent ∧
    ((r.report f).summary.severity = .corrected ∨ (r.report f).summary.severity = .fatal) ∧
    ((r.report f).summary.blockStatus.correctable = true ↔ r.status &&& f.correctedBits ≠ 0) ∧
    ((r.report f).summary.blockStatus.uncorrectable = true ↔
      r.status &&& f.correctedBits = 0 ∧ r.status &&& f.uncorrectedBits ≠ 0) ∧
    ((r.report f).summary.blockStatus.multipleCorrectable = true ↔
      r.Tells f f.multipleCorrected) ∧
    ((r.report f).summary.blockStatus.multipleUncorrectable = true ↔
      r.Tells f f.multipleUncorrected) ∧
    ((r.report f).summary.Consistent ↔
      (r.Tells f f.multipleCorrected → r.status &&& f.correctedBits ≠ 0) ∧
      (r.Tells f f.multipleUncorrected →
        r.status &&& f.correctedBits = 0 ∧ r.status &&& f.uncorrectedBits ≠ 0)) := by
  have hcoherent : (r.report f).summary.Coherent := summary_coherent hdistinct
  have hcorrectable : (r.report f).summary.blockStatus.correctable = true ↔
      r.status &&& f.correctedBits ≠ 0 := by
    simp [report, isCorrected]
  have huncorrectable : (r.report f).summary.blockStatus.uncorrectable = true ↔
      r.status &&& f.correctedBits = 0 ∧ r.status &&& f.uncorrectedBits ≠ 0 := by
    simp [report, isUncorrected, isCorrected]
  have hcorrected : (r.report f).summary.blockStatus.multipleCorrectable = true ↔
      r.Tells f f.multipleCorrected := by
    simp [report, multiplicity?_eq_some_iff hshift]
  have huncorrected : (r.report f).summary.blockStatus.multipleUncorrectable = true ↔
      r.Tells f f.multipleUncorrected := by
    simp [report, multiplicity?_eq_some_iff hshift]
  refine ⟨hcoherent, ?_, hcorrectable, huncorrectable, hcorrected, huncorrected, ?_⟩
  · cases hc : r.isCorrected f <;> simp [report, summary, hc]
  · rw [← hcorrectable, ← huncorrectable, ← hcorrected, ← huncorrected]
    exact ⟨fun h => ⟨h.multipleCorrectable, h.multipleUncorrectable⟩,
      fun ⟨hc, hu⟩ => ⟨hcoherent, hc, hu⟩⟩

end RamRecord

namespace Sample

/-- Bits 0 and 1 of the status are for corrected and uncorrected errors, bits 4 and 5 of the code
for several of them. -/
def ramFormat : RamFormat := ⟨0x10, 0x18, 0x20, 1, 2, 4, 3, 1, 2⟩

/-- The status tells of a corrected error, the code of several uncorrected ones. -/
def disagreeing : RamRecord := ⟨1, 0x20, 0x80001000⟩

end Sample

/-- Registers that disagree are reported as they are, as a corrected error of which there are
several uncorrected ones. -/
theorem RamRecord.summary_tells_sample :
    (Sample.disagreeing.report Sample.ramFormat).summary.Coherent ∧
    (Sample.disagreeing.report Sample.ramFormat).summary.blockStatus.correctable = true ∧
    (Sample.disagreeing.report Sample.ramFormat).summary.blockStatus.uncorrectable = false ∧
    (Sample.disagreeing.report Sample.ramFormat).summary.blockStatus.multipleUncorrectable =
      true := by
  obtain ⟨hcoherent, -, hcorrectable, -, -, hmultiple, -⟩ :=
    Sample.disagreeing.summary_tells (f := Sample.ramFormat) (by decide) (by decide)
  have hkind := hcorrectable.2 (by decide)
  refine ⟨hcoherent, hkind, ?_, hmultiple.2 ⟨by decide, by decide⟩⟩
  rw [← Bool.not_eq_true]
  exact fun h => hcoherent.kind ⟨hkind, h⟩

/-- The multiplicities of a RAM report do not always go with the kinds. -/
theorem RamRecord.summary_not_always_consistent :
    ¬ ∀ (r : RamRecord) (f : RamFormat), f.multiplicityShift < 32 →
      f.multipleCorrected ≠ f.multipleUncorrected → (r.report f).summary.Consistent := by
  intro h
  have hconsistent := h Sample.disagreeing Sample.ramFormat (by decide) (by decide)
  exact absurd (hconsistent.multipleUncorrectable (by decide)) (by decide)

end FirmwareFirst
