import Mathlib.Data.Nat.Bitwise
import FirmwareFirst.Proofs.Bits
import FirmwareFirst.Record.StatusBlock

/-!
# Changes of a block status

A block status is changed field by field, from whatever word it is. `BlockStatus.last_update_wins`
says what any changes in any order come to: each field is what it was last set to, or what it was at
the start, and the bits that belong to no field are as they were.
-/

namespace FirmwareFirst
namespace BlockStatus

variable {s t : BlockStatus} {i : Nat}

/-! ## Bits of a status -/

theorem eq_of_testBit (h : ∀ i < 32, s.bits.toNat.testBit i = t.bits.toNat.testBit i) : s = t := by
  cases s
  cases t
  rw [mk.injEq]
  exact uint32_eq_of_testBit h

theorem testBit_withFlag (s : BlockStatus) (flag : UInt32) (set : Bool) (hi : i < 32) :
    (s.withFlag flag set).bits.toNat.testBit i =
      if flag.toNat.testBit i then set else s.bits.toNat.testBit i := by
  cases set with
  | true =>
    simp only [withFlag, if_true, UInt32.toNat_or, Nat.testBit_or]
    cases flag.toNat.testBit i <;> simp
  | false =>
    have hnot : (~~~flag).toNat.testBit i = !flag.toNat.testBit i := by
      show (~~~flag.toBitVec).getLsbD i = !flag.toBitVec.getLsbD i
      rw [BitVec.getLsbD_not, decide_eq_true hi, Bool.true_and]
    simp only [withFlag, Bool.false_eq_true, if_false, UInt32.toNat_and, Nat.testBit_and, hnot]
    cases flag.toNat.testBit i <;> simp

/-- A count is cut to the ten bits that there are for it. -/
theorem testBit_withEntryCount (s : BlockStatus) (count : UInt16) (hi : i < 32) :
    (s.withEntryCount count).bits.toNat.testBit i =
      if 4 ≤ i ∧ i < 14 then count.toNat.testBit (i - 4) else s.bits.toNat.testBit i := by
  have hothers : ∀ i < 32, (~~~(entryCountMask <<< entryCountShift)).toNat.testBit i =
      !decide (4 ≤ i ∧ i < 14) := by
    decide
  have hmask : ∀ i < 32, entryCountMask.toNat.testBit i = decide (i < 10) := by decide
  have hshift : entryCountShift.toNat % 32 = 4 := rfl
  have hcount : ((count.toUInt32 &&& entryCountMask) <<< entryCountShift).toNat.testBit i =
      (decide (4 ≤ i ∧ i < 14) && count.toNat.testBit (i - 4)) := by
    rw [UInt32.toNat_shiftLeft, Nat.testBit_mod_two_pow, decide_eq_true hi, Bool.true_and,
      Nat.testBit_shiftLeft, UInt32.toNat_and, Nat.testBit_and, UInt16.toNat_toUInt32, hshift,
      hmask _ (by omega)]
    by_cases h : 4 ≤ i
    · have hten : i - 4 < 10 ↔ i < 14 := by omega
      simp only [h, hten, true_and, decide_true, Bool.true_and]
      exact Bool.and_comm ..
    · simp [h]
  rw [withEntryCount, UInt32.toNat_or, Nat.testBit_or, UInt32.toNat_and, Nat.testBit_and,
    hothers i hi, hcount]
  by_cases h : 4 ≤ i ∧ i < 14
  · simp [h]
  · simp [h]

theorem testBit_entryCount (s : BlockStatus) (i : Nat) :
    s.entryCount.toNat.testBit i = (decide (i < 10) && s.bits.toNat.testBit (4 + i)) := by
  have hmask : entryCountMask.toNat = 2 ^ 10 - 1 := rfl
  have hshift : entryCountShift.toNat % 32 = 4 := rfl
  rw [entryCount, UInt32.toNat_toUInt16, Nat.testBit_mod_two_pow, UInt32.toNat_and,
    Nat.testBit_and, hmask, Nat.testBit_two_pow_sub_one, UInt32.toNat_shiftRight, hshift,
    Nat.testBit_shiftRight]
  by_cases h : i < 10
  · simp [h, show i < 16 by omega]
  · simp [h]

/-- A flag of one bit is set if its bit is. -/
theorem hasFlag_eq_testBit {flag : UInt32} {k : Nat} (h : flag.toNat = 2 ^ k) (s : BlockStatus) :
    s.hasFlag flag = s.bits.toNat.testBit k := by
  have hand : (s.bits &&& flag).toNat = (s.bits.toNat.testBit k).toNat * 2 ^ k := by
    rw [UInt32.toNat_and, h, Nat.and_two_pow]
  rw [hasFlag, Bool.eq_iff_iff, bne_iff_ne, ne_eq, ← UInt32.toNat_inj, hand]
  cases s.bits.toNat.testBit k <;> simp

/-! ## Fields -/

/-- The flags of a block status. -/
inductive Flag
  | uncorrectable
  | correctable
  | multipleUncorrectable
  | multipleCorrectable
deriving DecidableEq

namespace Flag

/-- The bit that a flag is. -/
def position : Flag → Nat
  | uncorrectable => 0
  | correctable => 1
  | multipleUncorrectable => 2
  | multipleCorrectable => 3

/-- The word that a flag is set and cleared with. -/
def mask : Flag → UInt32
  | uncorrectable => uncorrectableFlag
  | correctable => correctableFlag
  | multipleUncorrectable => multipleUncorrectableFlag
  | multipleCorrectable => multipleCorrectableFlag

/-- What a status answers when it is asked for a flag. -/
def read : Flag → BlockStatus → Bool
  | uncorrectable => BlockStatus.uncorrectable
  | correctable => BlockStatus.correctable
  | multipleUncorrectable => BlockStatus.multipleUncorrectable
  | multipleCorrectable => BlockStatus.multipleCorrectable

theorem read_eq_testBit (f : Flag) (s : BlockStatus) :
    f.read s = s.bits.toNat.testBit f.position := by
  cases f <;> exact hasFlag_eq_testBit rfl s

end Flag

/-- The fields of a block status. -/
inductive Field
  | flag (f : Flag)
  | entryCount
deriving DecidableEq

/-- The field that a bit belongs to. -/
def fieldAt? : Nat → Option Field
  | 0 => some (.flag .uncorrectable)
  | 1 => some (.flag .correctable)
  | 2 => some (.flag .multipleUncorrectable)
  | 3 => some (.flag .multipleCorrectable)
  | i => if i < 14 then some .entryCount else none

theorem fieldAt?_eq_entryCount_iff (hi : i < 32) :
    fieldAt? i = some .entryCount ↔ 4 ≤ i ∧ i < 14 := by
  have hall : ∀ i < 32, fieldAt? i = some .entryCount ↔ 4 ≤ i ∧ i < 14 := by decide
  exact hall i hi

theorem fieldAt?_of_ge (h : 14 ≤ i) (hi : i < 32) : fieldAt? i = none := by
  have hall : ∀ i < 32, 14 ≤ i → fieldAt? i = none := by decide
  exact hall i hi h

theorem testBit_mask (f : Flag) (hi : i < 32) :
    f.mask.toNat.testBit i = decide (fieldAt? i = some (.flag f)) := by
  have hall : ∀ i < 32, f.mask.toNat.testBit i = decide (fieldAt? i = some (.flag f)) := by
    cases f <;> decide
  exact hall i hi

/-! ## One change -/

namespace Update

/-- The field that is set. -/
def field : Update → Field
  | uncorrectable _ => .flag .uncorrectable
  | correctable _ => .flag .correctable
  | multipleUncorrectable _ => .flag .multipleUncorrectable
  | multipleCorrectable _ => .flag .multipleCorrectable
  | entryCount _ => .entryCount

/-- What a flag is set to, if it is set. -/
def flag? : Flag → Update → Option Bool
  | .uncorrectable, uncorrectable set => some set
  | .correctable, correctable set => some set
  | .multipleUncorrectable, multipleUncorrectable set => some set
  | .multipleCorrectable, multipleCorrectable set => some set
  | _, _ => none

/-- What the number of entries is set to, if it is set. -/
def count? : Update → Option UInt16
  | entryCount count => some count
  | _ => none

/-- What bit `i` becomes, if it belongs to the field that is set. -/
def bitAt (i : Nat) : Update → Bool
  | uncorrectable set => set
  | correctable set => set
  | multipleUncorrectable set => set
  | multipleCorrectable set => set
  | entryCount count => count.toNat.testBit (i - 4)

/-- What bit `i` is set to, if it is set. -/
def bit? (i : Nat) (u : Update) : Option Bool :=
  if fieldAt? i = some u.field then some (u.bitAt i) else none

theorem bit?_position (f : Flag) (u : Update) : u.bit? f.position = u.flag? f := by
  cases f <;> cases u <;> rfl

theorem bit?_of_ge (u : Update) (h : 14 ≤ i) (hi : i < 32) : u.bit? i = none := by
  simp [bit?, fieldAt?_of_ge h hi]

theorem getD_bit? (u : Update) (i : Nat) (b : Bool) :
    (u.bit? i).getD b = if fieldAt? i = some u.field then u.bitAt i else b := by
  unfold bit?
  split <;> rfl

end Update

theorem testBit_withFlag_mask (s : BlockStatus) (f : Flag) (set : Bool) (hi : i < 32) :
    (s.withFlag f.mask set).bits.toNat.testBit i =
      if fieldAt? i = some (.flag f) then set else s.bits.toNat.testBit i := by
  simp only [testBit_withFlag s f.mask set hi, testBit_mask f hi, decide_eq_true_eq]

/-- A change sets the bits of its field and leaves all others alone. -/
theorem testBit_update (s : BlockStatus) (u : Update) (hi : i < 32) :
    (s.update u).bits.toNat.testBit i = (u.bit? i).getD (s.bits.toNat.testBit i) := by
  rw [Update.getD_bit?]
  cases u with
  | uncorrectable set => exact testBit_withFlag_mask s .uncorrectable set hi
  | correctable set => exact testBit_withFlag_mask s .correctable set hi
  | multipleUncorrectable set => exact testBit_withFlag_mask s .multipleUncorrectable set hi
  | multipleCorrectable set => exact testBit_withFlag_mask s .multipleCorrectable set hi
  | entryCount count =>
    simp only [Update.field, fieldAt?_eq_entryCount_iff hi]
    exact testBit_withEntryCount s count hi

theorem read_update (f : Flag) (s : BlockStatus) (u : Update) :
    f.read (s.update u) = (u.flag? f).getD (f.read s) := by
  have hi : f.position < 32 := by cases f <;> decide
  rw [f.read_eq_testBit, f.read_eq_testBit, testBit_update s u hi, u.bit?_position]

theorem entryCount_update (s : BlockStatus) (u : Update) :
    (s.update u).entryCount = (u.count?.map (· % 1024)).getD s.entryCount := by
  -- The bits of the number are bits 4 to 13 of the status, and of a new number as many count.
  apply UInt16.toNat_inj.1
  apply Nat.eq_of_testBit_eq
  intro i
  have hcut : ∀ n : Nat, (n % 1024).testBit i = (decide (i < 10) && n.testBit i) :=
    fun n => Nat.testBit_mod_two_pow n 10 i
  rw [testBit_entryCount]
  by_cases hi : i < 10
  · have hfield : fieldAt? (4 + i) = some .entryCount :=
      (fieldAt?_eq_entryCount_iff (by omega)).2 (by omega)
    rw [testBit_update s u (by omega), Update.getD_bit?, hfield]
    cases u with
    | entryCount count => simp [Update.count?, Update.bitAt, Update.field, hcut, hi]
    | _ => simp [Update.count?, Update.field, testBit_entryCount]
  · cases u with
    | entryCount count => simp [Update.count?, hcut, hi]
    | _ => simp [Update.count?, testBit_entryCount, hi]

/-! ## Changes in a row -/

/-- The status after some changes in order. -/
def updateAll (s : BlockStatus) (us : List Update) : BlockStatus :=
  us.foldl update s

theorem getElem?_history (s : BlockStatus) {us : List Update} {n : Nat} (h : n ≤ us.length) :
    (s.history us)[n]? = some (s.updateAll (us.take n)) := by
  induction us generalizing s n with
  | nil =>
    obtain rfl : n = 0 := Nat.le_zero.1 h
    rfl
  | cons u us ih =>
    cases n with
    | zero => rfl
    | succ n => exact ih (s.update u) (Nat.le_of_succ_le_succ h)

/-- What each change sets or leaves alone is, after all of them, what it was last set to. -/
theorem updateAll_eq_last {α : Type} (value : BlockStatus → α) {set? : Update → Option α}
    (h : ∀ s u, value (s.update u) = (set? u).getD (value s)) (s : BlockStatus)
    (us : List Update) :
    value (s.updateAll us) = ((us.filterMap set?).getLast?).getD (value s) := by
  -- To the changes that follow it, the first one is part of where they start from.
  induction us generalizing s with
  | nil => rfl
  | cons u us ih =>
    have hrest : value (s.updateAll (u :: us)) = value ((s.update u).updateAll us) := rfl
    rw [hrest, ih, h]
    cases hset : set? u with
    | none => simp [hset]
    | some a => simp [hset, List.getLast?_cons]

theorem testBit_updateAll (s : BlockStatus) (us : List Update) (hi : i < 32) :
    (s.updateAll us).bits.toNat.testBit i =
      ((us.filterMap (Update.bit? i)).getLast?).getD (s.bits.toNat.testBit i) :=
  updateAll_eq_last (fun s => s.bits.toNat.testBit i) (fun s u => testBit_update s u hi) s us

/-- The last of some changes that sets a field. -/
def lastOn (f : Field) (us : List Update) : Option Update :=
  (us.filter fun u => u.field = f).getLast?

/-- A bit is settled by the last change of the field that it belongs to. -/
theorem getLast?_bit? (us : List Update) (i : Nat) :
    (us.filterMap (Update.bit? i)).getLast? =
      (fieldAt? i).bind fun f => (lastOn f us).map (Update.bitAt i) := by
  cases hfield : fieldAt? i with
  | none => simp [Update.bit?, hfield]
  | some f =>
    have hbit : (fun u => if u.field = f then some (u.bitAt i) else none) = Update.bit? i := by
      funext u
      simp [Update.bit?, hfield, eq_comm]
    rw [Option.bind_some, lastOn, ← List.getLast?_map, ← List.filterMap_eq_map,
      List.filterMap_filter, ← hbit]
    simp

/-! ## Order and repetition -/

section

variable {u v : Update} {us vs ws : List Update}

/-- Of some changes only the last one of each field matters. -/
theorem updateAll_eq_of_lastOn (h : ∀ f, lastOn f us = lastOn f vs) (s : BlockStatus) :
    s.updateAll us = s.updateAll vs := by
  apply eq_of_testBit
  intro i hi
  rw [testBit_updateAll s us hi, testBit_updateAll s vs hi, getLast?_bit?, getLast?_bit?]
  simp only [h]

theorem lastOn_swap (h : u.field ≠ v.field) (f : Field) :
    lastOn f (us ++ u :: v :: vs) = lastOn f (us ++ v :: u :: vs) := by
  by_cases hu : u.field = f
  · have hv : v.field ≠ f := fun hv => h (hu.trans hv.symm)
    simp [lastOn, hu, hv]
  · simp [lastOn, List.filter_cons, hu]

theorem lastOn_overwritten (h : u.field = v.field) (f : Field) :
    lastOn f (us ++ u :: ws ++ v :: vs) = lastOn f (us ++ ws ++ v :: vs) := by
  by_cases hv : v.field = f
  · simp [lastOn, h, hv, List.getLast?_append, List.getLast?_cons]
  · simp [lastOn, h, hv]

end

/-! ## What changes come to -/

/-- The status `t` is what some changes make of `s`. -/
structure Updated (s : BlockStatus) (us : List Update) (t : BlockStatus) : Prop where
  /-- A flag is the last value that it was set to, if it was set. -/
  flag : ∀ f : Flag, t.bits.toNat.testBit f.position =
    ((us.filterMap (Update.flag? f)).getLast?).getD (s.bits.toNat.testBit f.position)
  /-- The number of entries is the last one that was given, cut to ten bits, if one was given. -/
  entryCount : t.entryCount =
    ((us.filterMap Update.count?).getLast?.map (· % 1024)).getD s.entryCount
  rest : ∀ i, 14 ≤ i → i < 32 → t.bits.toNat.testBit i = s.bits.toNat.testBit i
  read : ∀ f : Flag, f.read t = t.bits.toNat.testBit f.position

theorem updated_updateAll (s : BlockStatus) (us : List Update) : s.Updated us (s.updateAll us) where
  flag f := by
    rw [← f.read_eq_testBit, ← f.read_eq_testBit]
    exact updateAll_eq_last f.read (read_update f) s us
  entryCount := by
    rw [updateAll_eq_last entryCount entryCount_update s us, ← List.getLast?_map,
      List.map_filterMap]
  rest i h hi := by
    have hnone : us.filterMap (Update.bit? i) = [] :=
      List.filterMap_eq_nil_iff.2 fun u _ => u.bit?_of_ge h hi
    rw [testBit_updateAll s us hi, hnone]
    rfl
  read f := f.read_eq_testBit _

end BlockStatus

/-- The header shows the status `s` with a count of one entry in place of its own. -/
structure StatusHeader.ShowsOneEntry (h : StatusHeader) (s : BlockStatus) : Prop where
  /-- The word that the header is stored with is its block status. -/
  stored : Layout.uint32.decode (layout.encode h) = h.blockStatus
  bits : ∀ i < 32, h.blockStatus.toNat.testBit i =
    if 4 ≤ i ∧ i < 14 then decide (i = 4) else s.bits.toNat.testBit i
  entryCount : BlockStatus.entryCount ⟨h.blockStatus⟩ = 1
  read : ∀ f : BlockStatus.Flag, f.read ⟨h.blockStatus⟩ = f.read s

theorem StatusHeader.showsOneEntry (s : BlockStatus) (length : UInt32) (severity : Severity) :
    (ofSingleEntry s length severity).ShowsOneEntry s where
  stored := Layout.uint32.decode_append _ _
  bits i hi := by
    have hone : ∀ i < 32, 4 ≤ i → (1 : UInt16).toNat.testBit (i - 4) = decide (i = 4) := by decide
    rw [ofSingleEntry, BlockStatus.testBit_withEntryCount s 1 hi]
    by_cases h : 4 ≤ i ∧ i < 14
    · rw [if_pos h, if_pos h, hone i hi h.1]
    · rw [if_neg h, if_neg h]
  entryCount := s.entryCount_update (.entryCount 1)
  read f := by cases f <;> exact BlockStatus.read_update _ s (.entryCount 1)

namespace BlockStatus

/-- **The last change of a field wins.** From any word whatsoever, and after any changes in any
order, a flag is what it was last set to, the number of entries is the last one given, as far as its
ten bits go, and what was not set, the bits behind the number included, is as it was; each flag is
read as its bit. So of the changes only the last one of each field matters: changes of different
fields may trade places, and one that is followed by another of its field may be left out. A header
for one entry shows any status as it is but for the number, which is one. -/
theorem last_update_wins (s : BlockStatus) (us : List Update) :
    s.Updated us (s.updateAll us) ∧
    (∀ n ≤ us.length, (s.history us)[n]? = some (s.updateAll (us.take n))) ∧
    (∀ vs, (∀ f, lastOn f us = lastOn f vs) → s.updateAll us = s.updateAll vs) ∧
    (∀ (u v : Update) (vs : List Update), u.field ≠ v.field →
      s.updateAll (us ++ u :: v :: vs) = s.updateAll (us ++ v :: u :: vs)) ∧
    (∀ (u v : Update) (ws vs : List Update), u.field = v.field →
      s.updateAll (us ++ u :: ws ++ v :: vs) = s.updateAll (us ++ ws ++ v :: vs)) ∧
    ∀ length severity, (StatusHeader.ofSingleEntry s length severity).ShowsOneEntry s := by
  refine ⟨s.updated_updateAll us, fun n hn => s.getElem?_history hn, ?_, ?_, ?_, ?_⟩
  · intro vs h
    exact updateAll_eq_of_lastOn h s
  · intro u v vs h
    exact updateAll_eq_of_lastOn (lastOn_swap h) s
  · intro u v ws vs h
    exact updateAll_eq_of_lastOn (lastOn_overwritten h) s
  · intro length severity
    exact StatusHeader.showsOneEntry s length severity

end BlockStatus

namespace Sample

/-- A status of which nobody knows how it came about. -/
def strayStatus : BlockStatus := ⟨0xdeadbeef⟩

/-- A number of entries that is too wide, and a flag that is set and cleared. -/
def statusChanges : List BlockStatus.Update :=
  [.entryCount 0x7ff, .correctable true, .multipleCorrectable false, .correctable false]

end Sample

/-- Ten bits of the number are left in the stray status, and the flag is cleared. -/
theorem BlockStatus.last_update_wins_sample :
    (Sample.strayStatus.updateAll Sample.statusChanges).entryCount = 0x3ff ∧
    (Sample.strayStatus.updateAll Sample.statusChanges).correctable = false ∧
    Sample.strayStatus.updateAll (Sample.statusChanges ++ [.uncorrectable false, .entryCount 3]) =
      Sample.strayStatus.updateAll
        (Sample.statusChanges ++ [.entryCount 3, .uncorrectable false]) ∧
    Sample.strayStatus.updateAll (Sample.statusChanges ++ [.entryCount 2, .entryCount 3]) =
      Sample.strayStatus.updateAll (Sample.statusChanges ++ [.entryCount 3]) ∧
    (StatusHeader.ofSingleEntry Sample.strayStatus 152 .fatal).blockStatus = 0xdead801f := by
  obtain ⟨hupdated, -, -, hswap, hover, -⟩ :=
    BlockStatus.last_update_wins Sample.strayStatus Sample.statusChanges
  refine ⟨?_, ?_, ?_, ?_, by decide⟩
  · rw [hupdated.entryCount]
    decide
  · have hflag := (hupdated.read .correctable).trans (hupdated.flag .correctable)
    exact hflag
  · exact hswap (.uncorrectable false) (.entryCount 3) [] (by decide)
  · exact hover (.entryCount 2) (.entryCount 3) [] [] rfl

end FirmwareFirst
