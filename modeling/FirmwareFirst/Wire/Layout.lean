import FirmwareFirst.Bytes.LittleEndian

/-!
# Wire layouts

A `Layout α` says how a value of type `α` is stored: on a fixed number of bytes, without padding.
Numbers are little-endian, `pair` puts one value right behind another, `array` repeats one layout,
and `as` makes the layout of a tuple that of a structure with the same fields. The laws are part of
a layout: encoding fills exactly `size` bytes, decoding reads back what was encoded whatever follows
it, and every run of `size` bytes is the encoding of the value it decodes to.
-/

namespace FirmwareFirst

/-- A value of `β` is built from one of `α`, its parts, and falls into them again without loss. -/
structure Correspondence (α β : Type) where
  build : α → β
  parts : β → α
  build_parts : ∀ b, build (parts b) = b
  parts_build : ∀ a, parts (build a) = a

/-- A way to store the values of `α` on `size` bytes. -/
structure Layout (α : Type) where
  size : Nat
  encode : α → Bytes
  decode : Bytes → α
  length_encode : ∀ a, (encode a).length = size
  decode_append : ∀ a rest, decode (encode a ++ rest) = a
  encode_decode : ∀ bs : Bytes, size ≤ bs.length → encode (decode bs) = bs.take size

namespace Layout

variable {α β : Type}

@[simp] theorem decode_encode (l : Layout α) (a : α) : l.decode (l.encode a) = a := by
  have h := l.decode_append a []
  rwa [List.append_nil] at h

/-- A value is decoded from its own bytes alone. -/
theorem decode_take (l : Layout α) {bs : Bytes} (h : l.size ≤ bs.length) :
    l.decode (bs.take l.size) = l.decode bs := by
  rw [← l.encode_decode bs h, l.decode_encode]

/-- A number of `width` bytes, given by its value and by the number with a value. -/
def number (width : Nat) (toNat : α → Nat) (ofNat : Nat → α)
    (lt : ∀ a, toNat a < LittleEndian.bound width)
    (ofNat_toNat : ∀ a, ofNat (toNat a) = a)
    (toNat_ofNat : ∀ n, n < LittleEndian.bound width → toNat (ofNat n) = n) : Layout α where
  size := width
  encode a := LittleEndian.encode width (toNat a)
  decode bs := ofNat (LittleEndian.decode (bs.take width))
  length_encode a := LittleEndian.length_encode width (toNat a)
  decode_append a rest := by
    rw [List.take_left' (LittleEndian.length_encode width (toNat a)),
      LittleEndian.decode_encode_of_lt (lt a), ofNat_toNat]
  encode_decode bs h := by
    have hl : (bs.take width).length = width := by simp [h]
    have := LittleEndian.decode_lt (bs.take width)
    rw [hl] at this
    rw [toNat_ofNat _ this]
    conv => lhs; arg 1; rw [← hl]
    exact LittleEndian.encode_decode _

/-- A byte. -/
def uint8 : Layout UInt8 :=
  number 1 UInt8.toNat UInt8.ofNat (fun a => a.toNat_lt) (fun _ => UInt8.ofNat_toNat)
    (fun _ h => UInt8.toNat_ofNat_of_lt' h)

/-- A 16-bit number. -/
def uint16 : Layout UInt16 :=
  number 2 UInt16.toNat UInt16.ofNat (fun a => a.toNat_lt) (fun _ => UInt16.ofNat_toNat)
    (fun _ h => UInt16.toNat_ofNat_of_lt' h)

/-- A 32-bit number. -/
def uint32 : Layout UInt32 :=
  number 4 UInt32.toNat UInt32.ofNat (fun a => a.toNat_lt) (fun _ => UInt32.ofNat_toNat)
    (fun _ h => UInt32.toNat_ofNat_of_lt' h)

/-- A 64-bit number. -/
def uint64 : Layout UInt64 :=
  number 8 UInt64.toNat UInt64.ofNat (fun a => a.toNat_lt) (fun _ => UInt64.ofNat_toNat)
    (fun _ h => UInt64.toNat_ofNat_of_lt' h)

/-- A value of `a` followed by a value of `b`. -/
def pair (a : Layout α) (b : Layout β) : Layout (α × β) where
  size := a.size + b.size
  encode p := a.encode p.1 ++ b.encode p.2
  decode bs := (a.decode bs, b.decode (bs.drop a.size))
  length_encode p := by simp [a.length_encode, b.length_encode]
  decode_append p rest := by
    rw [List.append_assoc, a.decode_append, List.drop_left' (a.length_encode p.1),
      b.decode_append]
  encode_decode bs h := by
    rw [a.encode_decode bs (by omega), b.encode_decode (bs.drop a.size) (by simp; omega),
      List.take_add]

/-- The encodings of a list of values, one behind another. -/
def encodeList (l : Layout α) (xs : List α) : Bytes :=
  xs.flatMap l.encode

/-- The first `n` values stored one behind another. -/
def decodeList (l : Layout α) : Nat → Bytes → List α
  | 0, _ => []
  | n + 1, bs => l.decode bs :: l.decodeList n (bs.drop l.size)

theorem length_encodeList (l : Layout α) (xs : List α) :
    (l.encodeList xs).length = xs.length * l.size := by
  induction xs with
  | nil => simp [encodeList]
  | cons x xs ih =>
    rw [encodeList] at ih
    simp [encodeList, l.length_encode, ih, Nat.add_mul, Nat.add_comm]

@[simp] theorem length_decodeList (l : Layout α) (n : Nat) (bs : Bytes) :
    (l.decodeList n bs).length = n := by
  induction n generalizing bs with
  | zero => rfl
  | succ n ih => simp [decodeList, ih]

theorem decodeList_append (l : Layout α) (xs : List α) (rest : Bytes) :
    l.decodeList xs.length (l.encodeList xs ++ rest) = xs := by
  induction xs with
  | nil => rfl
  | cons x xs ih =>
    have h : l.encodeList (x :: xs) = l.encode x ++ l.encodeList xs := by simp [encodeList]
    rw [h, List.length_cons, decodeList, List.append_assoc, l.decode_append,
      List.drop_left' (l.length_encode x), ih]

theorem encodeList_decodeList (l : Layout α) (n : Nat) (bs : Bytes)
    (h : n * l.size ≤ bs.length) : l.encodeList (l.decodeList n bs) = bs.take (n * l.size) := by
  induction n generalizing bs with
  | zero => simp [decodeList, encodeList]
  | succ n ih =>
    rw [Nat.add_mul, Nat.one_mul] at h
    have hd := ih (bs.drop l.size) (by simp; omega)
    rw [encodeList] at hd
    rw [decodeList, encodeList, List.flatMap_cons, hd, l.encode_decode bs (by omega), Nat.add_mul,
      Nat.one_mul, Nat.add_comm, List.take_add]

/-- `n` values of `l`, one behind another. -/
def array (n : Nat) (l : Layout α) : Layout (Vector α n) where
  size := n * l.size
  encode v := l.encodeList v.toList
  decode bs := ⟨(l.decodeList n bs).toArray, by simp⟩
  length_encode v := by simp [length_encodeList]
  decode_append v rest := by
    have h := l.decodeList_append v.toList rest
    rw [Vector.length_toList] at h
    apply Vector.toList_inj.1
    simpa [Vector.toList] using h
  encode_decode bs h := by
    simpa [Vector.toList] using l.encodeList_decodeList n bs h

/-- `n` bytes. -/
def bytes (n : Nat) : Layout (Vector UInt8 n) :=
  array n uint8

/-- The layout `l` read as one of `β`, whose values correspond to those of `α`. -/
def as (l : Layout α) (c : Correspondence α β) : Layout β where
  size := l.size
  encode b := l.encode (c.parts b)
  decode bs := c.build (l.decode bs)
  length_encode b := l.length_encode (c.parts b)
  decode_append b rest := by rw [l.decode_append, c.build_parts]
  encode_decode bs h := by rw [c.parts_build, l.encode_decode bs h]

end Layout
end FirmwareFirst
