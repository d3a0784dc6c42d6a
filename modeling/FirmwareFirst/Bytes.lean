/-!
# Byte runs

A run of bytes is a stretch of memory or of wire data. `window` reads a range of it and `overwrite`
stores into a range. A store never changes the length of the run: `getElem?_overwrite` says which
bytes it replaces, and the `window_overwrite` lemmas what a later read of a range sees.
-/

namespace FirmwareFirst

/-- A stretch of memory or of wire data, lowest address first. -/
abbrev Bytes := List UInt8

namespace Bytes

/-- The `length` bytes from `start` on, or as many of them as there are. -/
def window (m : Bytes) (start length : Nat) : Bytes :=
  (m.drop start).take length

/-- The run with `data` stored from `start` on; what would lie past the end is dropped. -/
def overwrite (m : Bytes) (start : Nat) (data : Bytes) : Bytes :=
  m.take start ++ data.take (m.length - start) ++ m.drop (start + data.length)

/-- A run of zeros as long as `m`. -/
def cleared (m : Bytes) : Bytes :=
  List.replicate m.length 0

@[simp] theorem length_overwrite (m : Bytes) (start : Nat) (data : Bytes) :
    (overwrite m start data).length = m.length := by
  simp [overwrite]
  omega

@[simp] theorem length_cleared (m : Bytes) : (cleared m).length = m.length := by
  simp [cleared]

theorem getElem?_overwrite {m data : Bytes} {start : Nat} (h : start + data.length ≤ m.length)
    (i : Nat) : (overwrite m start data)[i]? =
      if start ≤ i ∧ i < start + data.length then data[i - start]? else m[i]? := by
  have hs : start ≤ m.length := by omega
  have ht : data.take (m.length - start) = data := List.take_of_length_le (by omega)
  rw [overwrite, ht]
  by_cases h1 : i < start
  · rw [if_neg (by omega), List.append_assoc, List.getElem?_append_left (by simp; omega),
      List.getElem?_take_of_lt h1]
  · by_cases h2 : i < start + data.length
    · rw [if_pos ⟨by omega, h2⟩, List.append_assoc, List.getElem?_append_right (by simp; omega),
        List.getElem?_append_left (by simp; omega)]
      simp [Nat.min_eq_left hs]
    · rw [if_neg (by omega), List.getElem?_append_right (by simp; omega), List.getElem?_drop]
      congr 1
      simp [Nat.min_eq_left hs]
      omega

/-- A store leaves every byte alone that it does not meet, be it past the end or not. -/
theorem getElem?_overwrite_of_disjoint {m data : Bytes} {start i : Nat}
    (h : i < start ∨ start + data.length ≤ i) : (overwrite m start data)[i]? = m[i]? := by
  by_cases hi : i < m.length
  · rcases h with h | h
    · rw [overwrite, List.append_assoc, List.getElem?_append_left (by simp; omega),
        List.getElem?_take_of_lt h]
    · rw [getElem?_overwrite (by omega), if_neg (by omega)]
  · rw [List.getElem?_eq_none (by simp; omega), List.getElem?_eq_none (by omega)]

theorem getElem?_window (m : Bytes) (start length i : Nat) :
    (window m start length)[i]? = if i < length then m[start + i]? else none := by
  by_cases h : i < length
  · simp [window, h]
  · rw [if_neg h, List.getElem?_eq_none_iff]
    simp [window]
    omega

/-- A store is read back by the window it filled. -/
theorem window_overwrite_self {m data : Bytes} {start : Nat}
    (h : start + data.length ≤ m.length) :
    window (overwrite m start data) start data.length = data := by
  apply List.ext_getElem?
  intro i
  rw [getElem?_window, getElem?_overwrite h]
  by_cases hi : i < data.length
  · rw [if_pos hi, if_pos ⟨by omega, by omega⟩]
    congr 1
    omega
  · simp [hi]

/-- A store leaves every window alone that it does not meet. -/
theorem window_overwrite_of_disjoint {m data : Bytes} {start : Nat}
    (h : start + data.length ≤ m.length) {first length : Nat}
    (hd : first + length ≤ start ∨ start + data.length ≤ first) :
    window (overwrite m start data) first length = window m first length := by
  apply List.ext_getElem?
  intro i
  rw [getElem?_window, getElem?_window, getElem?_overwrite h]
  by_cases hi : i < length
  · rw [if_pos hi, if_pos hi, if_neg (by omega)]
  · rw [if_neg hi, if_neg hi]

/-- A range of a range is a range. -/
theorem window_window (m : Bytes) (start : Nat) {length first count : Nat}
    (h : first + count ≤ length) :
    window (window m start length) first count = window m (start + first) count := by
  apply List.ext_getElem?
  intro i
  rw [getElem?_window, getElem?_window, getElem?_window]
  by_cases hi : i < count
  · rw [if_pos hi, if_pos hi, if_pos (by omega), Nat.add_assoc]
  · rw [if_neg hi, if_neg hi]

/-- Two stores, one right behind the other, are one store. -/
theorem overwrite_overwrite {m data more : Bytes} {start next : Nat}
    (hn : next = start + data.length) (h : next + more.length ≤ m.length) :
    overwrite (overwrite m start data) next more = overwrite m start (data ++ more) := by
  apply List.ext_getElem?
  intro i
  rw [getElem?_overwrite (by simpa using h), getElem?_overwrite (by omega),
    getElem?_overwrite (by simp; omega), List.length_append, List.getElem?_append]
  by_cases h1 : i < start
  · rw [if_neg (by omega), if_neg (by omega), if_neg (by omega)]
  · by_cases h2 : i < next
    · rw [if_neg (by omega), if_pos (by omega), if_pos (by omega), if_pos (by omega)]
    · by_cases h3 : i < next + more.length
      · rw [if_pos (by omega), if_pos (by omega), if_neg (by omega), hn, Nat.sub_sub]
      · rw [if_neg (by omega), if_neg (by omega), if_neg (by omega)]

end Bytes
end FirmwareFirst
