/-!
# Bits of words

A word is settled by its bits. Bit `i` of a word `a` is `a.toNat.testBit i`, so that bits of words
of different widths can be compared.
-/

namespace FirmwareFirst

variable {a b mask : UInt64} {i : Nat}

theorem eq_of_testBit (h : ∀ i < 64, a.toNat.testBit i = b.toNat.testBit i) : a = b :=
  UInt64.toBitVec_inj.1 (BitVec.eq_of_getLsbD_eq h)

theorem uint32_eq_of_testBit {a b : UInt32}
    (h : ∀ i < 32, a.toNat.testBit i = b.toNat.testBit i) : a = b :=
  UInt32.toBitVec_inj.1 (BitVec.eq_of_getLsbD_eq h)

theorem testBit_and (a b : UInt64) (i : Nat) :
    (a &&& b).toNat.testBit i = (a.toNat.testBit i && b.toNat.testBit i) := by
  rw [UInt64.toNat_and, Nat.testBit_and]

theorem testBit_or (a b : UInt64) (i : Nat) :
    (a ||| b).toNat.testBit i = (a.toNat.testBit i || b.toNat.testBit i) := by
  rw [UInt64.toNat_or, Nat.testBit_or]

theorem testBit_xor (a b : UInt64) (i : Nat) :
    (a ^^^ b).toNat.testBit i = (a.toNat.testBit i ^^ b.toNat.testBit i) := by
  rw [UInt64.toNat_xor, Nat.testBit_xor]

theorem testBit_shiftLeft (a : UInt64) (hb : b.toNat < 64) (hi : i < 64) :
    (a <<< b).toNat.testBit i = (decide (b.toNat ≤ i) && a.toNat.testBit (i - b.toNat)) := by
  rw [UInt64.toNat_shiftLeft, Nat.mod_eq_of_lt hb, Nat.testBit_mod_two_pow, Nat.testBit_shiftLeft,
    decide_eq_true hi, Bool.true_and]

theorem testBit_shiftRight (a : UInt64) (hb : b.toNat < 64) (i : Nat) :
    (a >>> b).toNat.testBit i = a.toNat.testBit (b.toNat + i) := by
  rw [UInt64.toNat_shiftRight, Nat.mod_eq_of_lt hb, Nat.testBit_shiftRight]

/-- The low bits of a word, shifted into their place. -/
theorem testBit_field {width : Nat} (a : UInt64)
    (hmask : ∀ i < 64, mask.toNat.testBit i = decide (i < width)) (hb : b.toNat < 64)
    (hi : i < 64) : ((a &&& mask) <<< b).toNat.testBit i =
      (decide (b.toNat ≤ i ∧ i < b.toNat + width) && a.toNat.testBit (i - b.toNat)) := by
  rw [testBit_shiftLeft _ hb hi, testBit_and, hmask _ (by omega)]
  by_cases hle : b.toNat ≤ i
  · have hlt : i - b.toNat < width ↔ i < b.toNat + width := by omega
    simp only [hle, hlt, true_and, decide_true, Bool.true_and]
    exact Bool.and_comm ..
  · simp [hle]

/-! ## Masks -/

/-- A word shows in a mask if one of the mask's bits is set in it. -/
theorem and_bne_zero (a : UInt64) (bits : List Nat) (hbits : ∀ j ∈ bits, j < 64)
    (hmask : ∀ i < 64, mask.toNat.testBit i = decide (i ∈ bits)) :
    (a &&& mask != 0) = bits.any fun j => a.toNat.testBit j := by
  have hbit : ∀ i < 64, (a &&& mask).toNat.testBit i =
      (a.toNat.testBit i && decide (i ∈ bits)) := by
    intro i hi
    rw [testBit_and, hmask i hi]
  cases hany : bits.any fun j => a.toNat.testBit j with
  | false =>
    rw [List.any_eq_false] at hany
    have hzero : a &&& mask = 0 := by
      apply eq_of_testBit
      intro i hi
      rw [hbit i hi]
      by_cases hmem : i ∈ bits
      · simp [hany i hmem]
      · simp [hmem]
    simp [hzero]
  | true =>
    obtain ⟨j, hmem, hj⟩ := List.any_eq_true.1 hany
    have hset := hbit j (hbits j hmem)
    rw [hj, decide_eq_true hmem] at hset
    rw [bne_iff_ne]
    intro hzero
    rw [hzero] at hset
    simp at hset

/-- Bits that are flipped outside of a mask do not show in it. -/
theorem xor_and {flips : UInt64}
    (h : ∀ i < 64, mask.toNat.testBit i = true → flips.toNat.testBit i = false) :
    (a ^^^ flips) &&& mask = a &&& mask := by
  apply eq_of_testBit
  intro i hi
  rw [testBit_and, testBit_and, testBit_xor]
  cases hm : mask.toNat.testBit i with
  | false => simp
  | true => simp [h i hi hm]

end FirmwareFirst
