import FirmwareFirst.Proofs.Calls

/-!
# Calls that find the error source in use

A call that asks for the region while another one may change it is refused. `Step.reaches` says
which calls ask for the region, `Answer.Reentrant` what they are told, and
`Scenario.reentrant_of_exclusive` that they are.
-/

namespace FirmwareFirst

/-! ## Asking for the region -/

/-- A buffer for descriptors is there and large enough. -/
def fitsDescriptors : Option Bytes → Option Nat → Option Nat → Bool
  | some b, some _, some _ => descriptorsLength ≤ b.length
  | _, _, _ => false

/-- An event is there and large enough. -/
def fitsEvent (eventSize : Nat) : Option Bytes → Option Nat → Bool
  | some b, some n => eventSize ≤ n && eventSize ≤ b.length
  | _, _ => false

/-- The call asks for the region: its arguments, if it has any, pass their checks. -/
def Step.reaches (eventSize : Nat) : Step → Bool
  | .getDescriptors buffer length count => fitsDescriptors buffer length count
  | .descriptor => true
  | .handleEvent buffer size => fitsEvent eventSize buffer size
  | .handle buffer size => fitsEvent eventSize buffer size
  | .dispatch buffer size => fitsEvent eventSize buffer size
  | .callInterface c => !c.nullInterface && fitsDescriptors c.buffer.join c.length c.count
  | .withRegion _ => true
  | _ => false

/-- The call was refused since the error source is in use. -/
def Answer.Reentrant : Answer → Prop
  | descriptors a => a.result = some (.error .reentrant)
  | descriptor d => d = .error .reentrant
  | event a => a.result = some (.error .reentrant)
  | handler a => a.status = some .accessDenied
  | interface a => a.status = some .accessDenied
  | region r => r = .error .reentrant
  | _ => False

/-- Nobody was there to be called: the firmware core remembers no handler, or no interface. -/
def Step.Unheard : Step → Answer → Prop
  | .dispatch _ _, .noHandler => True
  | .callInterface _, .noInterface => True
  | _, _ => False

/-! ## Being refused -/

namespace ErrorSource

variable {κ ρ σ ω : Type} (E : ErrorSource κ ρ σ)

theorem getDescriptors_of_held {m : State σ} (hm : m.hold ≠ .free) {buffer : Option Bytes}
    {length count : Option Nat} (h : fitsDescriptors buffer length count = true) :
    (E.getDescriptors m buffer length count).2.result = some (.error .reentrant) := by
  unfold fitsDescriptors at h
  split at h
  · rw [decide_eq_true_eq] at h
    simp only [getDescriptors]
    rw [if_neg (by omega), if_pos hm]
  · cases h

theorem callInterface_of_held {m : State σ} (hm : m.hold ≠ .free) {c : InterfaceCall}
    (hc : c.nullInterface = false) (h : fitsDescriptors c.buffer.join c.length c.count = true) :
    (E.callInterface m c).2.status = some .accessDenied := by
  have hfits : fitsDescriptors (c.buffer.join.map (·.take descriptorsLength)) c.length c.count =
      true := by
    unfold fitsDescriptors at h
    split at h
    · rename_i b length count hb hl hn
      rw [decide_eq_true_eq] at h
      rw [hb, hl, hn, Option.map_some, fitsDescriptors, decide_eq_true_eq, List.length_take]
      omega
    · cases h
  simp only [callInterface, E.getDescriptors_of_held hm hfits, hc]
  rfl

theorem handleEvent_of_held
    {capture : Bytes → State σ → State σ × Except CallError (Report Bytes) × List ω}
    {m : State σ} (hm : m.hold ≠ .free) {buffer : Option Bytes} {size : Option Nat}
    (h : fitsEvent E.source.eventSize buffer size = true) :
    E.handleEvent capture m buffer size = (m.say [], ⟨some (.error .reentrant), size⟩, []) := by
  unfold fitsEvent at h
  split at h
  · rename_i b n
    rw [Bool.and_eq_true, decide_eq_true_eq, decide_eq_true_eq] at h
    have ha : E.accept m (some b) (some n) = .error ⟨.reentrant, []⟩ := by
      simp only [accept]
      rw [if_neg (by omega), if_pos hm]
    simp only [handleEvent, ha]
  · cases h

theorem handle_of_held
    {capture : Bytes → State σ → State σ × Except CallError (Report Bytes) × List ω}
    {m : State σ} (hm : m.hold ≠ .free) {buffer : Option Bytes} {size : Option Nat}
    (h : fitsEvent E.source.eventSize buffer size = true) :
    (E.handle capture m buffer size).2.1.status = some .accessDenied := by
  simp only [handle, E.handleEvent_of_held hm h]
  rfl

end ErrorSource

namespace Scenario

variable {σ : Type}

/-- While a call may change the region, all calls that ask for it are refused, if anybody is there
to be called. -/
theorem reentrant_of_exclusive (S : Scenario σ) (capture : Capturing σ) {m : State σ}
    (hm : m.hold = .exclusive) {s : Step} (hs : s.reaches S.source.source.eventSize = true) :
    (S.stepWith capture s m).2.1.Reentrant ∨ s.Unheard (S.stepWith capture s m).2.1 := by
  have hheld : m.hold ≠ .free := by simp [hm]
  cases s with
  | getDescriptors buffer length count => exact .inl (S.source.getDescriptors_of_held hheld hs)
  | descriptor =>
    refine .inl ?_
    simp only [stepWith, ErrorSource.descriptor, State.view_of_exclusive hm]
    rfl
  | handleEvent buffer size =>
    refine .inl ?_
    simp only [stepWith, S.source.handleEvent_of_held hheld hs]
    rfl
  | handle buffer size => exact .inl (S.source.handle_of_held hheld hs)
  | dispatch buffer size =>
    simp only [stepWith]
    split
    · exact .inl (S.source.handle_of_held hheld hs)
    · exact .inr trivial
  | callInterface call =>
    simp only [Step.reaches, Bool.and_eq_true, Bool.not_eq_true'] at hs
    simp only [stepWith]
    split
    · exact .inl (S.source.callInterface_of_held hheld hs.1 hs.2)
    · exact .inr trivial
  | withRegion inside =>
    rw [stepWith, Hold.share?_eq_none_iff.2 hm]
    exact .inl rfl
  | config => cases hs
  | install replies onRegister onInstall onUnregister => cases hs
  | outside e => cases hs

end Scenario
end FirmwareFirst
