import FirmwareFirst.Region.Delivery

/-!
# The bytes of a region

What preparing a region and writing a report into it do to its memory. A report is written in three
pieces, which are one store of a status block (`write_eq_ok_iff`); a store moves no register that it
does not meet (`number_store`). Both end in the middle where the memory is too small for what they
store (`prepare_eq`, `write_eq`), which it never is if all lengths can be counted.
-/

namespace FirmwareFirst

/-- Offset `i` lies in a zone of a region laid out for sections of `maxSection` bytes. -/
def Zone.Covers (maxSection : Nat) (z : Zone) (i : Nat) : Prop :=
  z.offset maxSection ≤ i ∧ i < z.offset maxSection + z.length maxSection

theorem Zone.covers_ackData_iff {maxSection i : Nat} :
    Zone.ackData.Covers maxSection i ↔
      wrapped (108 + maxSection) ≤ i ∧ i < wrapped (108 + maxSection) + 8 := by
  have hl : Zone.ackData.length maxSection = 8 := rfl
  rw [Covers, offset_ackData, hl]

theorem Addressable.covers_ackData_iff {maxSection i : Nat} (h : Addressable maxSection) :
    Zone.ackData.Covers maxSection i ↔ 108 + maxSection ≤ i ∧ i < 116 + maxSection := by
  rw [Zone.covers_ackData_iff, h.wrapped_eq (by decide)]
  omega

namespace Region

/-- Where all lengths can be counted, the memory has room for all zones. -/
theorem length_memory (r : Region) (h : Addressable r.maxSection) :
    116 + r.maxSection ≤ r.memory.length := by
  have hfits := r.fits
  rwa [h.requiredSize_eq] at hfits

theorem length_encode_uint64 (n : UInt64) : (Layout.uint64.encode n).length = 8 :=
  Layout.uint64.length_encode n

/-! ## Stores -/

@[simp] theorem base_store (r : Region) (start : Nat) (data : Bytes) :
    (r.store start data).base = r.base := rfl

@[simp] theorem maxSection_store (r : Region) (start : Nat) (data : Bytes) :
    (r.store start data).maxSection = r.maxSection := rfl

@[simp] theorem prepared_store (r : Region) (start : Nat) (data : Bytes) :
    (r.store start data).prepared = r.prepared := rfl

@[simp] theorem address_store (r : Region) (start : Nat) (data : Bytes) (z : Zone) :
    (r.store start data).address z = r.address z := rfl

theorem getElem?_store (r : Region) {start : Nat} {data : Bytes}
    (h : start + data.length ≤ r.memory.length) (i : Nat) :
    (r.store start data).memory[i]? =
      if start ≤ i ∧ i < start + data.length then data[i - start]? else r.memory[i]? :=
  Bytes.getElem?_overwrite h i

theorem number_store (r : Region) {start : Nat} {data : Bytes} {z : Zone}
    (h : start + data.length ≤ r.memory.length)
    (hd : z.offset r.maxSection + z.length r.maxSection ≤ start ∨
      start + data.length ≤ z.offset r.maxSection) :
    (r.store start data).number z = r.number z :=
  congrArg Layout.uint64.decode (Bytes.window_overwrite_of_disjoint h hd)

/-- A number that was stored where a zone starts is what the zone holds. -/
theorem number_store_self (r : Region) {z : Zone} (n : UInt64) (hz : z.length r.maxSection = 8)
    (h : z.offset r.maxSection + 8 ≤ r.memory.length) :
    (r.store (z.offset r.maxSection) (Layout.uint64.encode n)).number z = n := by
  have hl : (Layout.uint64.encode n).length = z.length r.maxSection := by
    rw [hz]
    exact length_encode_uint64 n
  have hfit : z.offset r.maxSection + (Layout.uint64.encode n).length ≤ r.memory.length := by
    rwa [length_encode_uint64]
  have hw := Bytes.window_overwrite_self hfit
  rw [hl] at hw
  have hd := congrArg Layout.uint64.decode hw
  rwa [Layout.decode_encode] at hd

/-! ## Pieces -/

/-- The region with some pieces of it filled, wherever they lie. -/
def storeAll (r : Region) (pieces : List Piece) : Region :=
  pieces.foldl (fun r p => r.store p.first p.data) r

/-- Pieces that lie in the memory are filled. -/
theorem fillAll_of_within {r : Region} {pieces : List Piece} (h : ∀ p ∈ pieces, p.Within r.size) :
    r.fillAll pieces = (r.storeAll pieces, true) := by
  induction pieces generalizing r with
  | nil => rfl
  | cons p rest ih =>
    have hsize : (r.store p.first p.data).size = r.size := Bytes.length_overwrite ..
    rw [fillAll, if_pos (h p List.mem_cons_self), ih]
    · rfl
    · intro q hq
      rw [hsize]
      exact h q (List.mem_cons_of_mem p hq)

/-- A piece that does not lie in the memory is not filled, wherever it comes. -/
theorem fillAll_of_not_within {r : Region} {pieces : List Piece} {p : Piece} (hp : p ∈ pieces)
    (h : ¬ p.Within r.size) : (r.fillAll pieces).2 = false := by
  induction pieces generalizing r with
  | nil => cases hp
  | cons q rest ih =>
    rw [fillAll]
    split
    · rename_i hq
      have hsize : (r.store q.first q.data).size = r.size := Bytes.length_overwrite ..
      rcases List.mem_cons.1 hp with rfl | hp
      · exact (h hq).elim
      · exact ih hp (by rwa [hsize])
    · rfl

/-- What every store keeps is kept when pieces are filled, even if not all of them are. -/
theorem fillAll_kept {I : Region → Prop}
    (hstore : ∀ r start data, I r → I (Region.store r start data)) {r : Region} (hr : I r)
    (pieces : List Piece) : I (r.fillAll pieces).1 := by
  induction pieces generalizing r with
  | nil => exact hr
  | cons p rest ih =>
    rw [fillAll]
    split
    · exact ih (hstore r p.first p.data hr)
    · exact hr

/-- What every store leaves alone is left alone when pieces are filled. -/
theorem fillAll_fixed {α : Type} {f : Region → α}
    (hstore : ∀ r start data, f (Region.store r start data) = f r) (r : Region)
    (pieces : List Piece) : f (r.fillAll pieces).1 = f r :=
  fillAll_kept (I := fun s => f s = f r) (fun s start data h => (hstore s start data).trans h) rfl
    pieces

/-! ## Preparing -/

/-- The region cleared, with its registers pointing at their data. -/
def pointed (r : Region) : Region :=
  (r.clear.store 8 (Layout.uint64.encode (r.address .statusData))).store 0
    (Layout.uint64.encode (r.address .ackData))

theorem prepare_of_prepared {r : Region} (h : r.prepared = true) : r.prepare = (r, some []) := by
  simp [prepare, h]

/-- A region is prepared if it has the registers; else it is left with its memory cleared. -/
theorem prepare_eq {r : Region} (h : r.prepared = false) :
    r.prepare = if 16 ≤ r.memory.length then
      ({ r.pointed with prepared := true }, some [.regionPrepared r.base r.blockLength])
    else (r.clear, none) := by
  have hsize : r.clear.size = r.memory.length := Bytes.length_cleared r.memory
  have hword : Layout.uint64.size = 8 := rfl
  rw [prepare, if_neg (by simp [h])]
  by_cases hl : 16 ≤ r.memory.length
  · rw [if_pos hl, fillAll_of_within]
    · rfl
    · intro p hp
      simp only [List.mem_cons, List.not_mem_nil, or_false] at hp
      rcases hp with rfl | rfl
      all_goals
        constructor <;> simp [pointer, Zone.offset, hword, hsize, length_encode_uint64]
        omega
  · have hno : ¬ (r.pointer .statusRegister .statusData).Within r.clear.size := by
      intro hp
      have hw : 8 + 8 ≤ r.clear.size := hp.within
      omega
    rw [if_neg hl, fillAll, if_neg hno]

theorem prepare_returns_iff {r : Region} :
    r.prepare.2.isSome = true ↔ r.prepared = true ∨ 16 ≤ r.memory.length := by
  cases h : r.prepared with
  | true => simp [prepare_of_prepared h]
  | false =>
    rw [prepare_eq h]
    split <;> simp [*]

/-- Only where there is no room for the registers is a region not prepared. -/
theorem prepare_of_stuck {r : Region} (h : r.prepare.2 = none) :
    r.prepared = false ∧ r.memory.length < 16 ∧ r.prepare.1 = r.clear := by
  cases hp : r.prepared with
  | true =>
    rw [prepare_of_prepared hp] at h
    cases h
  | false =>
    rw [prepare_eq hp] at h ⊢
    split at h
    · cases h
    · rename_i hl
      rw [if_neg hl]
      exact ⟨rfl, Nat.lt_of_not_le hl, rfl⟩

@[simp] theorem base_prepare (r : Region) : r.prepare.1.base = r.base := by
  cases h : r.prepared with
  | true => rw [prepare_of_prepared h]
  | false =>
    rw [prepare_eq h]
    split <;> rfl

@[simp] theorem maxSection_prepare (r : Region) : r.prepare.1.maxSection = r.maxSection := by
  cases h : r.prepared with
  | true => rw [prepare_of_prepared h]
  | false =>
    rw [prepare_eq h]
    split <;> rfl

theorem prepared_prepare {r : Region} (hr : r.prepare.2.isSome = true) :
    r.prepare.1.prepared = true := by
  cases h : r.prepared with
  | true => rwa [prepare_of_prepared h]
  | false =>
    rw [prepare_returns_iff, h] at hr
    rw [prepare_eq h, if_pos (by simpa using hr)]

@[simp] theorem length_memory_prepare (r : Region) :
    r.prepare.1.memory.length = r.memory.length := by
  cases h : r.prepared with
  | true => rw [prepare_of_prepared h]
  | false =>
    rw [prepare_eq h]
    split <;> simp [pointed, store, clear]

theorem number_prepare {r : Region} (h : r.prepared = false) (hl : 16 ≤ r.memory.length) :
    r.prepare.1.number .statusRegister = r.address .statusData ∧
      r.prepare.1.number .ackRegister = r.address .ackData := by
  have hsize : r.clear.memory.length = r.memory.length := Bytes.length_cleared r.memory
  have hsize' : (r.clear.store 8 (Layout.uint64.encode (r.address .statusData))).memory.length =
      r.memory.length := (Bytes.length_overwrite ..).trans hsize
  rw [prepare_eq h, if_pos hl]
  constructor
  · have hs : r.pointed.number .statusRegister = Region.number
        (r.clear.store 8 (Layout.uint64.encode (r.address .statusData))) .statusRegister := by
      refine number_store _ ?_ (.inr ?_)
      · rw [length_encode_uint64, hsize']
        omega
      · simp [Zone.offset, length_encode_uint64]
    exact hs.trans (number_store_self r.clear (z := .statusRegister) _ rfl (by rwa [hsize]))
  · refine number_store_self _ (z := .ackRegister) _ rfl ?_
    rw [hsize']
    exact Nat.le_trans (by decide : 0 + 8 ≤ 16) hl

/-- Past the registers, a region that was prepared just now holds zeros. -/
theorem getElem?_prepare {r : Region} (h : r.prepared = false) {i : Nat} (hi : 16 ≤ i)
    (hr : i < r.memory.length) : r.prepare.1.memory[i]? = some 0 := by
  have hc : r.clear.memory[i]? = some 0 := by
    simp [clear, Bytes.cleared, hr]
  have hsize : r.clear.memory.length = r.memory.length := Bytes.length_cleared r.memory
  have hstore : ∀ (s : Region) (start : Nat) (n : UInt64), s.memory.length = r.memory.length →
      start + 8 ≤ 16 → (s.store start (Layout.uint64.encode n)).memory[i]? = s.memory[i]? := by
    intro s start n hs ho
    have hd := length_encode_uint64 n
    rw [getElem?_store _ (by omega), if_neg (by omega)]
  rw [prepare_eq h, if_pos (by omega), ← hc]
  refine (hstore _ 0 _ ((Bytes.length_overwrite ..).trans hsize) (by decide)).trans ?_
  exact hstore r.clear 8 _ hsize (by decide)

/-! ## Writing a report -/

/-- The status block for a report: header, data entry and section. -/
def blockOf (sectionType : Guid) (report : Report Bytes) : Bytes :=
  StatusHeader.layout.encode (headerOf report) ++
    DataEntry.layout.encode (entryOf sectionType report) ++ report.content

theorem length_blockOf (sectionType : Guid) (report : Report Bytes) :
    (blockOf sectionType report).length = 92 + report.content.length := by
  simp only [blockOf, List.length_append, Layout.length_encode, statusHeader_size, dataEntry_size]

/-- A report is written within memory that has room for its section. -/
theorem pieces_within {size : Nat} (sectionType : Guid) {report : Report Bytes}
    (h : 108 + report.content.length ≤ size) :
    ∀ p ∈ pieces sectionType report, p.Within size := by
  have hheader := StatusHeader.layout.length_encode (headerOf report)
  have hentry := DataEntry.layout.length_encode (entryOf sectionType report)
  rw [statusHeader_size] at hheader
  rw [dataEntry_size] at hentry
  intro p hp
  simp only [pieces, entryOffset_eq, sectionOffset_eq, List.mem_cons, List.not_mem_nil,
    or_false] at hp
  rcases hp with rfl | rfl | rfl
  all_goals constructor <;> simp only <;> omega

/-- The three pieces that a report is written in make up its status block. -/
theorem storeAll_pieces {r : Region} (sectionType : Guid) {report : Report Bytes}
    (h : 108 + report.content.length ≤ r.memory.length) :
    r.storeAll (pieces sectionType report) = r.store 16 (blockOf sectionType report) := by
  have h1 := StatusHeader.layout.length_encode (headerOf report)
  have h2 := DataEntry.layout.length_encode (entryOf sectionType report)
  rw [statusHeader_size] at h1
  rw [dataEntry_size] at h2
  simp only [storeAll, pieces, List.foldl_cons, List.foldl_nil, store, Region.mk.injEq, true_and,
    and_true, blockOf, entryOffset_eq, sectionOffset_eq]
  rw [Bytes.overwrite_overwrite (by rw [h2]) (by rw [Bytes.length_overwrite]; omega),
    Bytes.overwrite_overwrite (by rw [h1]) (by rw [List.length_append, h2]; omega),
    List.append_assoc]

/-- What comes of writing a report: it is refused, or it is written into the status block and
nowhere else, or the memory is too small for its section. -/
theorem write_eq (r : Region) (sectionType : Guid) (report : Report Bytes) :
    r.write sectionType report =
      if !r.prepared then some (.error .notReady)
      else if r.maxSection < report.content.length then some (.error .sectionTooLarge)
      else if 108 + report.content.length ≤ r.memory.length then
        some (.ok (r.store 16 (blockOf sectionType report)))
      else none := by
  rw [write]
  congr 2
  by_cases hroom : 108 + report.content.length ≤ r.memory.length
  · rw [if_pos hroom, fillAll_of_within (pieces_within sectionType hroom),
      storeAll_pieces sectionType hroom]
  · have hno : ¬ Piece.Within ⟨sectionOffset, sectionOffset + report.content.length,
        report.content⟩ r.size := by
      intro hp
      exact hroom hp.within
    have hstuck : (r.fillAll (pieces sectionType report)).2 = false :=
      fillAll_of_not_within (by simp [pieces]) hno
    rw [if_neg hroom]
    generalize r.fillAll (pieces sectionType report) = filled at hstuck
    obtain ⟨filled, _ | _⟩ := filled
    · rfl
    · cases hstuck

/-- A report is written into a prepared region that takes its section and has room for it, and
nowhere but into the status block. -/
theorem write_eq_ok_iff {r r' : Region} {sectionType : Guid} {report : Report Bytes} :
    r.write sectionType report = some (.ok r') ↔ r.prepared = true ∧
      report.content.length ≤ r.maxSection ∧ 108 + report.content.length ≤ r.memory.length ∧
      r' = r.store 16 (blockOf sectionType report) := by
  rw [write_eq]
  cases hp : r.prepared with
  | false => simp
  | true =>
    by_cases hm : r.maxSection < report.content.length
    · simp [hm, Nat.not_le.2 hm]
    · by_cases hroom : 108 + report.content.length ≤ r.memory.length
      · simp [hm, hroom, Nat.le_of_not_lt hm, eq_comm]
      · simp [hm, hroom]

/-- Nothing comes of a report where the memory is too small for its section. -/
theorem write_eq_none_iff {r : Region} {sectionType : Guid} {report : Report Bytes} :
    r.write sectionType report = none ↔ r.prepared = true ∧
      report.content.length ≤ r.maxSection ∧ r.memory.length < 108 + report.content.length := by
  rw [write_eq]
  cases hp : r.prepared with
  | false => simp
  | true =>
    by_cases hm : r.maxSection < report.content.length
    · simp [hm, Nat.not_le.2 hm]
    · by_cases hroom : 108 + report.content.length ≤ r.memory.length
      · simp [hm, hroom]
      · simp [hm, hroom, Nat.le_of_not_lt hm, Nat.lt_of_not_le hroom]

/-- What every store keeps is kept by an attempt to write a report. -/
theorem publish_kept {I : Region → Prop}
    (hstore : ∀ r start data, I r → I (Region.store r start data)) {r : Region} (hr : I r)
    (sectionType : Guid) (report : Report Bytes) : I (r.publish sectionType report).1 := by
  rw [publish]
  rcases hw : r.write sectionType report with _ | e | r'
  · exact fillAll_kept hstore hr _
  · exact hr
  · obtain ⟨-, -, -, rfl⟩ := write_eq_ok_iff.1 hw
    exact hstore _ _ _ hr

/-- Where all lengths can be counted, a report always comes to something. -/
theorem write_ne_none {r : Region} (h : Addressable r.maxSection) (sectionType : Guid)
    (report : Report Bytes) : r.write sectionType report ≠ none := by
  intro hno
  obtain ⟨-, hmax, hsmall⟩ := write_eq_none_iff.1 hno
  have hl := r.length_memory h
  omega

end Region
end FirmwareFirst
