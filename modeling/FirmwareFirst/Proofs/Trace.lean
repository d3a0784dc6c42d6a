import FirmwareFirst.Scenario.Run

/-!
# Traces

The outcomes of a run are trees, since steps happen inside of steps. `Outcome.traces` lays them out
in a row, each step behind the steps that happened inside of it. Everything that changes a region
from outside of a capture is done in one go by a step without steps inside, so a trace is also the
order in which these changes came about.
-/

namespace FirmwareFirst

/-! ## Rows of outcomes -/

namespace Outcome

mutual

/-- An outcome behind the outcomes inside of it. -/
def trace : Outcome → List Outcome
  | mk step answer inside after => traces inside ++ [mk step answer inside after]

/-- The traces of some outcomes, one behind another. -/
def traces : List Outcome → List Outcome
  | [] => []
  | o :: os => o.trace ++ traces os

end

@[simp] theorem traces_nil : traces [] = [] := by
  rw [traces]

theorem traces_cons (o : Outcome) (os : List Outcome) :
    traces (o :: os) = o.trace ++ traces os := by
  rw [traces]

theorem trace_mk (s : Step) (a : Answer) (inside : List Outcome) (after : Except CallError Region) :
    (mk s a inside after).trace = traces inside ++ [mk s a inside after] := by
  rw [trace]

@[simp] theorem traces_append (os ps : List Outcome) :
    traces (os ++ ps) = traces os ++ traces ps := by
  induction os with
  | nil => simp
  | cons o os ih => rw [List.cons_append, traces_cons, traces_cons, ih, List.append_assoc]

/-- What ends with an outcome of two rows, one behind the other, ends in the first or in the
second. -/
theorem concat_prefix_append {p s t : List Outcome} {o : Outcome} (h : p ++ [o] <+: s ++ t) :
    p ++ [o] <+: s ∨ ∃ q, p = s ++ q ∧ q ++ [o] <+: t := by
  obtain ⟨u, hu⟩ := h
  rcases List.append_eq_append_iff.1 hu with ⟨v, hv, -⟩ | ⟨v, hv, hw⟩
  · exact .inl ⟨v, hv.symm⟩
  · rcases List.eq_nil_or_concat v with rfl | ⟨q, o', rfl⟩
    · rw [List.append_nil] at hv
      exact .inl ⟨[], by rw [List.append_nil, hv]⟩
    · rw [List.concat_eq_append, ← List.append_assoc] at hv
      obtain ⟨hp, ho⟩ := List.append_inj' hv rfl
      cases ho
      refine .inr ⟨q, hp, u, ?_⟩
      rw [hw, List.concat_eq_append]

/-! ## What an outcome tells -/

/-- The descriptors were asked for and handed out. -/
def publishes : Outcome → Bool
  | mk _ (.descriptors ⟨some (.ok ()), _, _, _⟩) _ _ => true
  | mk _ (.interface a) _ _ => decide (a.status = some .success)
  | _ => false

/-- The bytes of the descriptors that were handed out. -/
def delivered? : Outcome → Option Bytes
  | mk _ (.descriptors ⟨some (.ok ()), _, _, some b⟩) _ _ => some (b.take descriptorsLength)
  | mk _ (.interface ⟨status, _, _, some (some b)⟩) _ _ =>
    if status = some .success then some (b.take descriptorsLength) else none
  | _ => none

/-- An event was handled to the end. -/
def completes : Outcome → Bool
  | mk _ (.event ⟨some (.ok ()), _⟩) _ _ => true
  | _ => false

/-- The call was answered. Only what leaves the memory never is. -/
def returns (o : Outcome) : Bool :=
  match o.answer with
  | .descriptors a => a.result.isSome
  | .event a => a.result.isSome
  | .handler a => a.status.isSome
  | .interface a => a.status.isSome
  | _ => true

/-- What happened outside of the error source. -/
def outside? : Outcome → Option Outside
  | mk (.outside e) _ _ _ => some e
  | _ => none

theorem outside?_of_ne {s : Step} (hs : ∀ e, s ≠ .outside e) {a : Answer} {inside : List Outcome}
    {after : Except CallError Region} : (mk s a inside after).outside? = none := by
  cases s <;> first | rfl | exact (hs _ rfl).elim

/-- The byte that the operating system wrote at an offset. -/
def writtenAt? (i : Nat) : Outcome → Option UInt8
  | mk (.outside (.writeMemory offset data)) _ _ _ =>
    if offset ≤ i then data[i - offset]? else none
  | _ => none

end Outcome

/-! ## The region as it is changed from outside -/

namespace Region

/-- The region after an event outside of the error source. -/
def outside (r : Region) : Outside → Region
  | .writeMemory offset data => r.store offset data
  | _ => r

@[simp] theorem base_outside (r : Region) (e : Outside) : (r.outside e).base = r.base := by
  cases e <;> rfl

@[simp] theorem maxSection_outside (r : Region) (e : Outside) :
    (r.outside e).maxSection = r.maxSection := by
  cases e <;> rfl

@[simp] theorem prepared_outside (r : Region) (e : Outside) :
    (r.outside e).prepared = r.prepared := by
  cases e <;> rfl

/-- The region after all that happened outside of the error source. -/
def outsideAll (r : Region) (t : List Outcome) : Region :=
  (t.filterMap Outcome.outside?).foldl outside r

@[simp] theorem outsideAll_nil (r : Region) : r.outsideAll [] = r := rfl

theorem outsideAll_append (r : Region) (s t : List Outcome) :
    r.outsideAll (s ++ t) = (r.outsideAll s).outsideAll t := by
  simp [outsideAll]

theorem outsideAll_of_call (r : Region) {o : Outcome} (ho : o.outside? = none) :
    r.outsideAll [o] = r := by
  simp [outsideAll, ho]

/-- What each of the events outside of the error source keeps, all of them keep. -/
theorem outsideAll_kept {I : Region → Prop} {r : Region} {t : List Outcome}
    (h : ∀ e ∈ t.filterMap Outcome.outside?, ∀ r, I r → I (r.outside e)) (hr : I r) :
    I (r.outsideAll t) := by
  unfold outsideAll
  generalize t.filterMap Outcome.outside? = es at h ⊢
  induction es generalizing r with
  | nil => exact hr
  | cons e es ih =>
    rw [List.forall_mem_cons] at h
    exact ih (h.1 r hr) h.2

/-- What events outside of the error source leave alone one by one, they leave alone. -/
theorem outsideAll_eq_self {α : Type} (f : Region → α) (hf : ∀ r e, f (r.outside e) = f r)
    (r : Region) (t : List Outcome) : f (r.outsideAll t) = f r := by
  refine outsideAll_kept (I := fun s => f s = f r) (fun e _ s hs => ?_) rfl
  rw [hf, hs]

@[simp] theorem prepared_outsideAll (r : Region) (t : List Outcome) :
    (r.outsideAll t).prepared = r.prepared :=
  outsideAll_eq_self prepared prepared_outside r t

@[simp] theorem base_outsideAll (r : Region) (t : List Outcome) :
    (r.outsideAll t).base = r.base :=
  outsideAll_eq_self base base_outside r t

@[simp] theorem maxSection_outsideAll (r : Region) (t : List Outcome) :
    (r.outsideAll t).maxSection = r.maxSection :=
  outsideAll_eq_self maxSection maxSection_outside r t

@[simp] theorem length_outsideAll (r : Region) (t : List Outcome) :
    (r.outsideAll t).memory.length = r.memory.length := by
  refine outsideAll_eq_self (fun r => r.memory.length) (fun r e => ?_) r t
  cases e with
  | writeMemory offset data => exact Bytes.length_overwrite ..
  | _ => rfl

end Region

theorem State.region_outside {σ : Type} (m : State σ) (e : Outside) :
    (m.outside e).region = m.region.outside e := by
  cases e <;> rfl

end FirmwareFirst
