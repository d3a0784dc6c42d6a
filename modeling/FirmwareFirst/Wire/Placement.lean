import FirmwareFirst.Wire.Layout

/-!
# Structures in buffers

A structure is read from, or written into, a buffer at a `Placement`: it is the whole buffer, its
first bytes or its last bytes. A buffer that does not suit the placement gives `none`, and nothing
is read or written.
-/

namespace FirmwareFirst

/-- Where in a buffer a structure lies. -/
inductive Placement
  /-- The structure is the buffer. -/
  | whole
  /-- The structure is at the start of the buffer. -/
  | front
  /-- The structure is at the end of the buffer. -/
  | back
deriving DecidableEq

namespace Placement

/-- Where a structure of `size` bytes starts in a buffer of `length` bytes, if it fits. -/
def start (p : Placement) (size length : Nat) : Option Nat :=
  match p with
  | whole => if length = size then some 0 else none
  | front => if size ≤ length then some 0 else none
  | back => if size ≤ length then some (length - size) else none

theorem start_le {p : Placement} {size length s : Nat} (h : p.start size length = some s) :
    s + size ≤ length := by
  cases p <;> simp [start] at h <;> omega

end Placement

namespace Layout

variable {α : Type}

/-- The structure at placement `p` of a buffer, and the bytes of the buffer it does not use. -/
def read (l : Layout α) (p : Placement) (buffer : Bytes) : Option (α × Bytes) :=
  (p.start l.size buffer.length).map fun s =>
    (l.decode (buffer.drop s), buffer.take s ++ buffer.drop (s + l.size))

theorem read_front (l : Layout α) {buffer : Bytes} (h : l.size ≤ buffer.length) :
    l.read .front buffer = some (l.decode buffer, buffer.drop l.size) := by
  simp [read, Placement.start, h]

/-- The buffer with `a` written at placement `p`. -/
def write (l : Layout α) (p : Placement) (a : α) (buffer : Bytes) : Option Bytes :=
  (p.start l.size buffer.length).map fun s => buffer.overwrite s (l.encode a)

end Layout
end FirmwareFirst
