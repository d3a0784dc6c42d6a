import FirmwareFirst.Proofs.RegionMemory
import FirmwareFirst.Proofs.Trace

/-!
# What a call comes to

A call that holds no other steps does one of five things: it only logs, it hands out the
descriptors, it leaves the memory when it is to hand them out, it handles an event, or it is no call
but an event outside of the error source. `Scenario.Effect` lists them with what they do to the
state and what they answer, and `Scenario.effect` says that the list is complete.
-/

namespace FirmwareFirst

/-! ## Asking for descriptors -/

/-- The descriptor tells where the region is and how it is laid out, but not what is in it. -/
theorem descriptorFor_congr {κ ρ σ : Type} (E : ErrorSource κ ρ σ) {r r' : Region}
    (hb : r.base = r'.base) (hm : r.maxSection = r'.maxSection) :
    E.descriptorFor r = E.descriptorFor r' := by
  simp only [ErrorSource.descriptorFor, Region.address, Region.blockLength, hb, hm]

namespace ErrorSource

variable {κ ρ σ ω : Type} (E : ErrorSource κ ρ σ)

/-- What is answered to a caller whose buffer `b` takes the descriptors of a source that publishes
into `region`. -/
def publication (region : Region) (b : Bytes) : DescriptorsAnswer :=
  ⟨some (.ok ()), some descriptorsLength, some descriptorCount,
    some (b.overwrite 0 (Descriptor.layout.encode (E.descriptorFor region)))⟩

/-- A buffer that takes the descriptors starts with them afterwards. -/
theorem take_overwrite_descriptor {b : Bytes} (hb : descriptorsLength ≤ b.length)
    (d : Descriptor) :
    (b.overwrite 0 (Descriptor.layout.encode d)).take descriptorsLength =
      Descriptor.layout.encode d := by
  have hl : (Descriptor.layout.encode d).length = descriptorsLength :=
    Descriptor.layout.length_encode d
  have hfit : 0 + (Descriptor.layout.encode d).length ≤ b.length := by omega
  have h := Bytes.window_overwrite_self hfit
  rw [hl] at h
  exact h

/-- So does a buffer whose first bytes alone were handed over to be filled. -/
theorem take_overwrite_descriptor_append {b : Bytes} (hb : descriptorsLength ≤ b.length)
    (d : Descriptor) :
    (Bytes.overwrite (b.take descriptorsLength) 0 (Descriptor.layout.encode d) ++
      b.drop descriptorsLength).take descriptorsLength = Descriptor.layout.encode d := by
  have hl : (b.take descriptorsLength).length = descriptorsLength := by simp [hb]
  have h := take_overwrite_descriptor (b := b.take descriptorsLength) (by omega) d
  have hw := Bytes.length_overwrite (b.take descriptorsLength) 0 (Descriptor.layout.encode d)
  rw [List.take_of_length_le (by omega)] at h
  rw [List.take_left' (by omega), h]

/-- Asking for descriptors either changes nothing and fails, or prepares the region, which nobody
uses, and fills the buffer, or never returns since the region cannot be prepared. -/
theorem getDescriptors_cases (m : State σ) (buffer : Option Bytes) (length count : Option Nat) :
    ((E.getDescriptors m buffer length count).1 = m ∧
      (E.getDescriptors m buffer length count).2.buffer = buffer ∧
      ∃ e, (E.getDescriptors m buffer length count).2.result = some (.error e) ∧
        e.status ≠ .success) ∨
    (m.hold = .free ∧ m.region.prepare.2.isSome = true ∧ ∃ b messages, buffer = some b ∧
      descriptorsLength ≤ b.length ∧ E.getDescriptors m buffer length count =
        (({ m with region := m.region.prepare.1 } : State σ).say messages,
          E.publication m.region.prepare.1 b)) ∨
    (m.hold = .free ∧ m.region.prepare.2 = none ∧ E.getDescriptors m buffer length count =
      ({ m with region := m.region.prepare.1, hold := .exclusive },
        ⟨none, some descriptorsLength, some descriptorCount, buffer⟩)) := by
  unfold getDescriptors
  split
  · split
    · exact .inl ⟨rfl, rfl, _, rfl, by decide⟩
    · rename_i b
      by_cases hb : b.length < descriptorsLength
      · rw [if_pos hb]
        exact .inl ⟨rfl, rfl, _, rfl, by decide⟩
      · rw [if_neg hb]
        by_cases hm : m.hold = .free
        · rw [if_neg (by simp [hm])]
          right
          rcases m.region.prepare with ⟨region, _ | log⟩
          · exact .inr ⟨hm, rfl, rfl⟩
          · exact .inl ⟨hm, rfl, b, _, rfl, by omega, rfl⟩
        · rw [if_pos hm]
          exact .inl ⟨rfl, rfl, _, rfl, by decide⟩
  · exact .inl ⟨rfl, rfl, _, rfl, by decide⟩

/-- A call of the interface either only logs and fails, or prepares the region, which nobody uses,
and fills the first bytes of the buffer, or never returns since the region cannot be prepared. -/
theorem callInterface_cases (m : State σ) (c : InterfaceCall) :
    ((∃ messages, (E.callInterface m c).1 = m.say messages) ∧
      ∃ status, (E.callInterface m c).2.status = some status ∧ status ≠ .success) ∨
    (m.hold = .free ∧ m.region.prepare.2.isSome = true ∧ ∃ b messages,
      c.buffer = some (some b) ∧ descriptorsLength ≤ b.length ∧
      (E.callInterface m c).1 =
        ({ m with region := m.region.prepare.1 } : State σ).say messages ∧
      (E.callInterface m c).2 =
        ⟨some .success, some descriptorsLength, some descriptorCount,
          some (some (Bytes.overwrite (b.take descriptorsLength) 0
            (Descriptor.layout.encode (E.descriptorFor m.region.prepare.1)) ++
              b.drop descriptorsLength))⟩) ∨
    (m.hold = .free ∧ m.region.prepare.2 = none ∧
      (E.callInterface m c).1 = { m with region := m.region.prepare.1, hold := .exclusive } ∧
      (E.callInterface m c).2.status = none) := by
  have hsay : m = m.say [] := (State.say_nil m).symm
  unfold callInterface
  by_cases hn : c.nullInterface
  · rw [if_pos hn]
    exact .inl ⟨⟨[], hsay⟩, .invalidParameter, rfl, by decide⟩
  · rw [if_neg hn]
    have h := E.getDescriptors_cases m (c.buffer.join.map (·.take descriptorsLength)) c.length
      c.count
    generalize E.getDescriptors m (c.buffer.join.map (·.take descriptorsLength)) c.length c.count
      = answered at h
    obtain ⟨m', result, length, count, buffer⟩ := answered
    rcases h with ⟨rfl, -, e, rfl, hs⟩ | ⟨hf, hr, b, messages, hb, hl, h⟩ | ⟨hf, hr, h⟩
    · refine .inl ⟨?_, e.status, rfl, hs⟩
      cases e
      case bufferTooSmall => exact ⟨[], hsay⟩
      all_goals exact ⟨_, rfl⟩
    · refine .inr (.inl ⟨hf, hr, ?_⟩)
      cases h
      obtain ⟨b', hb', rfl⟩ := Option.map_eq_some_iff.1 hb
      have hc : c.buffer = some (some b') := Option.join_eq_some_iff.1 hb'
      refine ⟨b', messages, hc, ?_, rfl, ?_⟩
      · simp at hl
        omega
      · rw [hc]
        rfl
    · cases h
      exact .inr (.inr ⟨hf, hr, rfl, rfl⟩)

/-! ## Handling an event -/

/-- An event is accepted if its buffer is long enough, the descriptors were handed out and nobody
uses the region or the event source. -/
theorem accept_eq_ok_iff {m : State σ} {buffer : Option Bytes} {size : Option Nat} {event : Bytes} :
    E.accept m buffer size = .ok event ↔
      ∃ b n, buffer = some b ∧ size = some n ∧ E.source.eventSize ≤ n ∧
        E.source.eventSize ≤ b.length ∧ m.hold = .free ∧ m.region.prepared = true ∧
        m.capturing = false ∧ event = b.take E.source.eventSize := by
  unfold accept
  split
  · rename_i b n
    by_cases hl : n < E.source.eventSize ∨ b.length < E.source.eventSize
    · rw [if_pos hl]
      constructor
      · intro h
        cases h
      · rintro ⟨_, _, ⟨⟩, ⟨⟩, hn, hb, -⟩
        omega
    · rw [if_neg hl]
      rw [not_or] at hl
      by_cases hf : m.hold = .free
      · cases hp : m.region.prepared <;> cases hc : m.capturing <;> simp [hf]
        constructor
        · rintro rfl
          exact ⟨by omega, by omega, rfl⟩
        · rintro ⟨-, -, rfl⟩
          rfl
      · simp [hf]
  · rename_i hno
    constructor
    · intro h
      cases h
    · rintro ⟨b, n, rfl, rfl, -⟩
      exact (hno b n rfl rfl).elim

/-- When an event is accepted, the descriptors were handed out and nobody is at work. -/
theorem of_accept {m : State σ} {buffer : Option Bytes} {size : Option Nat} {event : Bytes}
    (h : E.accept m buffer size = .ok event) :
    m.hold = .free ∧ m.region.prepared = true ∧ m.capturing = false := by
  obtain ⟨b, n, -, -, -, -, hfree, hprep, hidle, -⟩ := E.accept_eq_ok_iff.1 h
  exact ⟨hfree, hprep, hidle⟩

/-- An event that is not accepted is answered with an error status. -/
theorem status_of_accept_eq_error {m : State σ} {buffer : Option Bytes} {size : Option Nat}
    {r : Rejection} (h : E.accept m buffer size = .error r) : r.error.status ≠ .success := by
  unfold accept at h
  split at h
  · split at h
    · cases h
      exact show Status.badBufferSize ≠ .success by decide
    · split at h
      · cases h
        decide
      · split at h
        · cases h
          exact show Status.notReady ≠ .success by decide
        · split at h
          · cases h
            decide
          · cases h
  · cases h
    decide

/-- What was captured is either written, or the state stays as it is and there is an error, that of
the capture or that of the attempt to write, or the memory is too small for it. -/
theorem publish_cases {m m' : State σ} {outcome : Except CallError (Report Bytes)}
    {result : Option (Except CallError Unit)} (h : E.publish m outcome = (m', result)) :
    (m' = m ∧ ∃ e, result = some (.error e) ∧ (outcome = .error e ∨
      ∃ report, outcome = .ok report ∧
        m.region.write E.source.sectionType report = some (.error e))) ∨
    (∃ report r, outcome = .ok report ∧
      m.region.write E.source.sectionType report = some (.ok r) ∧
      m' = ({ m with region := r } : State σ).say [r.writtenMessage report] ∧
      result = some (.ok ())) ∨
    ∃ report, outcome = .ok report ∧ m.region.write E.source.sectionType report = none ∧
      m' = { m with
        region := (m.region.fillAll (Region.pieces E.source.sectionType report)).1 } ∧
      result = none := by
  unfold publish at h
  cases outcome with
  | error e =>
    cases h
    exact .inl ⟨rfl, e, rfl, .inl rfl⟩
  | ok report =>
    simp only [Region.publish] at h
    cases hw : m.region.write E.source.sectionType report with
    | none =>
      rw [hw] at h
      cases h
      exact .inr (.inr ⟨report, rfl, hw, rfl, rfl⟩)
    | some written =>
      rw [hw] at h
      cases written with
      | error e =>
        cases h
        exact .inl ⟨State.say_nil m, e, rfl, .inr ⟨report, rfl, hw⟩⟩
      | ok r =>
        cases h
        exact .inr (.inl ⟨report, r, rfl, hw, rfl, rfl⟩)

/-- What becomes of the region when a report is published. -/
theorem region_publish (m : State σ) (report : Report Bytes) :
    (E.publish m (.ok report)).1.region =
      (m.region.publish E.source.sectionType report).1 := by
  simp only [publish]
  rcases m.region.publish E.source.sectionType report with ⟨region, _ | ⟨log, result⟩⟩ <;> rfl

/-- A report is written into a prepared region that takes its section and has room for it. -/
theorem publish_of_fits {m m' : State σ} {report : Report Bytes}
    {result : Option (Except CallError Unit)} (hp : m.region.prepared = true)
    (hfits : report.content.length ≤ m.region.maxSection)
    (hroom : 108 + report.content.length ≤ m.region.memory.length)
    (h : E.publish m (.ok report) = (m', result)) :
    ∃ r, m.region.write E.source.sectionType report = some (.ok r) ∧
      m' = ({ m with region := r } : State σ).say [r.writtenMessage report] ∧
      result = some (.ok ()) := by
  have hwrite : m.region.write E.source.sectionType report = some (.ok _) :=
    Region.write_eq_ok_iff.2 ⟨hp, hfits, hroom, rfl⟩
  rcases E.publish_cases h with ⟨-, e, -, he | ⟨report', he, hw⟩⟩ | ⟨report', r, he, hw, hm, hr⟩ |
    ⟨report', he, hw, -⟩
  · cases he
  · cases he
    rw [hwrite] at hw
    cases hw
  · cases he
    exact ⟨r, hw, hm, hr⟩
  · cases he
    rw [hwrite] at hw
    cases hw

/-- Nothing comes of a report where there is no room for it. -/
theorem publish_of_short {m m' : State σ} {report : Report Bytes}
    {result : Option (Except CallError Unit)} (hp : m.region.prepared = true)
    (hfits : report.content.length ≤ m.region.maxSection)
    (hshort : m.region.memory.length < 108 + report.content.length)
    (h : E.publish m (.ok report) = (m', result)) : result = none := by
  have hwrite : m.region.write E.source.sectionType report = none :=
    Region.write_eq_none_iff.2 ⟨hp, hfits, hshort⟩
  rw [publish, Region.publish, hwrite] at h
  cases h
  rfl

/-- A report that a region takes was written if anything came of it. -/
theorem publish_of_answered {m m' : State σ} {report : Report Bytes}
    {result : Option (Except CallError Unit)} (hp : m.region.prepared = true)
    (hfits : report.content.length ≤ m.region.maxSection) (hresult : result.isSome = true)
    (h : E.publish m (.ok report) = (m', result)) :
    ∃ r, m.region.write E.source.sectionType report = some (.ok r) ∧
      m' = ({ m with region := r } : State σ).say [r.writtenMessage report] ∧
      result = some (.ok ()) := by
  by_cases hroom : 108 + report.content.length ≤ m.region.memory.length
  · exact E.publish_of_fits hp hfits hroom h
  · rw [E.publish_of_short hp hfits (Nat.lt_of_not_le hroom) h] at hresult
    cases hresult

end ErrorSource

/-- The state once a call that used the region has come to `result`: one that never returns goes on
using it. -/
def State.settle {σ α : Type} (m : State σ) (result : Option α) : State σ :=
  if result.isSome then m.unlock else m

@[simp] theorem State.region_settle {σ α : Type} (m : State σ) (result : Option α) :
    (m.settle result).region = m.region := by
  unfold settle
  split <;> rfl

/-! ## All calls -/

/-- The arguments of a call that handles an event. -/
def Step.event? : Step → Option (Option Bytes × Option Nat)
  | .handleEvent buffer size => some (buffer, size)
  | .handle buffer size => some (buffer, size)
  | .dispatch buffer size => some (buffer, size)
  | _ => none

/-- The step holds no other steps. -/
def Step.isSingle : Step → Bool
  | .withRegion _ => false
  | .install _ _ _ _ => false
  | _ => true

namespace Answer

/-- The call returned, and neither were descriptors handed out nor was a report published. -/
def Fruitless : Answer → Prop
  | descriptors a => ∃ e, a.result = some (.error e)
  | event a => ∃ e, a.result = some (.error e)
  | handler a => ∃ status, a.status = some status ∧ status ≠ .success
  | interface a => ∃ status, a.status = some status ∧ status ≠ .success
  | _ => True

/-- An event came to `result`, if the call returned. -/
def Gives (result : Option (Except CallError Unit)) : Answer → Prop
  | event a => a.result = result
  | handler a => a.status = result.map .ofResult
  | _ => False

/-- The call was to hand out descriptors and never returned. -/
def Stuck : Answer → Prop
  | descriptors a => a.result = none
  | interface a => a.status = none
  | _ => False

end Answer

namespace Outcome

theorem publishes_of_fruitless {o : Outcome} (h : o.answer.Fruitless) : o.publishes = false := by
  obtain ⟨s, a, inside, after⟩ := o
  cases a with
  | descriptors a =>
    obtain ⟨result, length, count, buffer⟩ := a
    obtain ⟨e, rfl⟩ : ∃ e, result = some (.error e) := h
    rfl
  | interface a =>
    obtain ⟨status, hs, hfail⟩ := h
    exact decide_eq_false (by rw [hs]; simpa using hfail)
  | _ => rfl

theorem completes_of_fruitless {o : Outcome} (h : o.answer.Fruitless) : o.completes = false := by
  obtain ⟨s, a, inside, after⟩ := o
  cases a with
  | event a =>
    obtain ⟨result, size⟩ := a
    obtain ⟨e, rfl⟩ : ∃ e, result = some (.error e) := h
    rfl
  | _ => rfl

theorem returns_of_fruitless {o : Outcome} (h : o.answer.Fruitless) : o.returns = true := by
  obtain ⟨s, a, inside, after⟩ := o
  cases a with
  | descriptors a =>
    obtain ⟨e, he⟩ := h
    exact Option.isSome_of_eq_some he
  | event a =>
    obtain ⟨e, he⟩ := h
    exact Option.isSome_of_eq_some he
  | handler a =>
    obtain ⟨status, hs, -⟩ := h
    exact Option.isSome_of_eq_some hs
  | interface a =>
    obtain ⟨status, hs, -⟩ := h
    exact Option.isSome_of_eq_some hs
  | _ => rfl

theorem returns_of_publishes {o : Outcome} (h : o.publishes = true) : o.returns = true := by
  obtain ⟨s, a, inside, after⟩ := o
  cases a with
  | descriptors a =>
    obtain ⟨_ | _, length, count, buffer⟩ := a
    · cases h
    · rfl
  | interface a => exact Option.isSome_of_eq_some (of_decide_eq_true h)
  | _ => cases h

theorem returns_of_gives {o : Outcome} {result : Option (Except CallError Unit)}
    (h : o.answer.Gives result) : o.returns = result.isSome := by
  obtain ⟨s, a, inside, after⟩ := o
  cases a with
  | event a => exact congrArg Option.isSome h
  | handler a =>
    have hs := congrArg Option.isSome (show a.status = result.map .ofResult from h)
    rwa [Option.isSome_map] at hs
  | _ => cases h

theorem returns_of_stuck {o : Outcome} (h : o.answer.Stuck) : o.returns = false := by
  obtain ⟨s, a, inside, after⟩ := o
  cases a with
  | descriptors a => exact congrArg Option.isSome h
  | interface a => exact congrArg Option.isSome h
  | _ => cases h

theorem publishes_of_stuck {o : Outcome} (h : o.answer.Stuck) : o.publishes = false := by
  cases hp : o.publishes with
  | false => rfl
  | true =>
    have hr := returns_of_publishes hp
    rw [returns_of_stuck h] at hr
    cases hr

/-- Descriptors are delivered only where they were handed out. -/
theorem publishes_of_delivered? {o : Outcome} {b : Bytes} (h : o.delivered? = some b) :
    o.publishes = true := by
  unfold delivered? at h
  split at h
  · rfl
  · split at h
    · rename_i hs
      exact decide_eq_true hs
    · cases h
  · cases h

/-- To handle an event is not to hand out descriptors. -/
theorem delivered?_of_gives {o : Outcome} {result : Option (Except CallError Unit)}
    (h : o.answer.Gives result) : o.delivered? = none := by
  obtain ⟨s, a, inside, after⟩ := o
  cases a <;> first | rfl | cases h

theorem completes_of_gives_error {o : Outcome} {e : CallError}
    (h : o.answer.Gives (some (.error e))) : o.completes = false := by
  obtain ⟨s, a, inside, after⟩ := o
  cases a with
  | event a =>
    obtain ⟨result, size⟩ := a
    obtain rfl : result = some (.error e) := h
    rfl
  | _ => rfl

/-- To hand out descriptors is not to handle an event. -/
theorem completes_of_publishes {o : Outcome} (h : o.publishes = true) : o.completes = false := by
  obtain ⟨s, a, inside, after⟩ := o
  cases a <;> first | rfl | cases h

end Outcome

namespace Scenario

variable {σ : Type} {S : Scenario σ} {capture : Capturing σ}

/-- The report that `capture` makes of an event, if the event is accepted. -/
def reportOf? (S : Scenario σ) (capture : Capturing σ) (m : State σ) (buffer : Option Bytes)
    (size : Option Nat) : Option (Report Bytes) :=
  match S.source.accept m buffer size with
  | .error _ => none
  | .ok event => (capture event m.lock).2.1.toOption

/-- The report that is captured in a step. -/
def captured? (S : Scenario σ) (capture : Capturing σ) (m : State σ) : Step → Option (Report Bytes)
  | .handleEvent buffer size => S.reportOf? capture m buffer size
  | .handle buffer size => S.reportOf? capture m buffer size
  | .dispatch buffer size => if m.core.handler then S.reportOf? capture m buffer size else none
  | _ => none

/-- What a step that holds no other steps does to the state `m`, what it answers, and what happened
inside of it. -/
inductive Effect (S : Scenario σ) (capture : Capturing σ) (m : State σ) :
    Step → State σ → Answer → List Outcome → Prop where
  /-- Nothing but messages came of the call. -/
  | idle {s : Step} {a : Answer} (messages : List Message) (hs : ∀ e, s ≠ .outside e)
      (hr : S.captured? capture m s = none) (ha : a.Fruitless) :
      Effect S capture m s (m.say messages) a []
  /-- The descriptors were handed out. -/
  | published {s : Step} {a : Answer} (messages : List Message) (hfree : m.hold = .free)
      (hready : m.region.prepare.2.isSome = true)
      (hs : ∀ e, s ≠ .outside e) (hr : S.captured? capture m s = none)
      (hp : ∀ after, (Outcome.mk s a [] after).publishes = true)
      (hd : ∀ after, (Outcome.mk s a [] after).delivered? =
        some (Descriptor.layout.encode (S.source.descriptorFor m.region.prepare.1))) :
      Effect S capture m s (({ m with region := m.region.prepare.1 } : State σ).say messages) a []
  /-- The descriptors were to be handed out, and the region could not be prepared. -/
  | stuck {s : Step} {a : Answer} (hfree : m.hold = .free) (hstuck : m.region.prepare.2 = none)
      (hs : ∀ e, s ≠ .outside e) (hr : S.captured? capture m s = none) (ha : a.Stuck) :
      Effect S capture m s { m with region := m.region.prepare.1, hold := .exclusive } a []
  /-- An event was captured. -/
  | handled {s : Step} {a : Answer} {buffer : Option Bytes} {size : Option Nat} {event : Bytes}
      {captured m' : State σ} {outcome : Except CallError (Report Bytes)} {inside : List Outcome}
      {result : Option (Except CallError Unit)} (messages : List Message)
      (hs : s.event? = some (buffer, size))
      (haccept : S.source.accept m buffer size = .ok event)
      (hcapture : capture event m.lock = (captured, outcome, inside))
      (hr : S.captured? capture m s = outcome.toOption)
      (hpublish : S.source.publish captured outcome = (m', result))
      (ha : a.Gives result) : Effect S capture m s ((m'.settle result).say messages) a inside
  /-- It was no call. -/
  | outside {m' : State σ} (e : Outside) (hm : m' = m.outside e) :
      Effect S capture m (.outside e) m' .done []

/-- What handling an event comes to. -/
theorem handleEvent_effect (capture : Capturing σ) (m : State σ) (buffer : Option Bytes)
    (size : Option Nat) :
    (∃ messages e size', e.status ≠ Status.success ∧ S.reportOf? capture m buffer size = none ∧
      S.source.handleEvent capture m buffer size =
        (m.say messages, ⟨some (.error e), size'⟩, [])) ∨
    ∃ event captured outcome inside m' result size',
      S.source.accept m buffer size = .ok event ∧
      capture event m.lock = (captured, outcome, inside) ∧
      S.reportOf? capture m buffer size = outcome.toOption ∧
      S.source.publish captured outcome = (m', result) ∧
      S.source.handleEvent capture m buffer size =
        (m'.settle result, ⟨result, size'⟩, inside) := by
  unfold ErrorSource.handleEvent reportOf?
  cases ha : S.source.accept m buffer size with
  | error r => exact .inl ⟨r.log, r.error, size, S.source.status_of_accept_eq_error ha, rfl, rfl⟩
  | ok event =>
    rcases hc : capture event m.lock with ⟨captured, outcome, inside⟩
    rcases hp : S.source.publish captured outcome with ⟨m', result⟩
    refine .inr ⟨event, captured, outcome, inside, m', result, ?_⟩
    rcases result with _ | e | ok
    · exact ⟨size, rfl, hc, by simp [hc], hp, by simp [hc, hp, State.settle]⟩
    · exact ⟨size, rfl, hc, by simp [hc], hp, by simp [hc, hp, State.settle]⟩
    · exact ⟨some 0, rfl, hc, by simp [hc], hp, by simp [hc, hp, State.settle]⟩

/-- What handling an event for the firmware core comes to. -/
theorem handle_effect {s : Step} {buffer : Option Bytes} {size : Option Nat}
    (hs : s.event? = some (buffer, size)) (capture : Capturing σ) (m : State σ)
    (hr : S.captured? capture m s = S.reportOf? capture m buffer size) :
    Effect S capture m s (S.source.handle capture m buffer size).1
      (.handler (S.source.handle capture m buffer size).2.1)
      (S.source.handle capture m buffer size).2.2 := by
  have hne : ∀ e, s ≠ .outside e := by
    rintro e rfl
    cases hs
  unfold ErrorSource.handle
  rcases handleEvent_effect (S := S) capture m buffer size with
    ⟨messages, e, size', he, hn, h⟩ |
    ⟨event, captured, outcome, inside, m', result, size', ha, hc, hn, hp, h⟩
  · rw [h]
    rw [hn] at hr
    simp only [Option.map_some]
    split
    · rw [State.say_say]
      exact .idle _ hne hr ⟨e.status, rfl, he⟩
    · exact .idle _ hne hr ⟨e.status, rfl, he⟩
  · rw [h]
    rw [hn] at hr
    have hsilent : Effect S capture m s ((m'.settle result).say [])
        (.handler ⟨result.map .ofResult, size', buffer⟩) inside :=
      .handled [] hs ha hc hr hp rfl
    rw [State.say_nil] at hsilent
    cases result with
    | none => exact hsilent
    | some result =>
      simp only [Option.map_some]
      split
      · exact .handled _ hs ha hc hr hp rfl
      · exact hsilent

/-- **Every call has one of these effects.** -/
theorem effect (S : Scenario σ) (capture : Capturing σ) {s : Step} (hs : s.isSingle = true)
    (m : State σ) :
    Effect S capture m s (S.stepWith capture s m).1 (S.stepWith capture s m).2.1
      (S.stepWith capture s m).2.2 := by
  have hsilent : ∀ {s : Step} {a : Answer}, (∀ e, s ≠ .outside e) →
      S.captured? capture m s = none → a.Fruitless → Effect S capture m s m a [] := by
    intro s a hs hr ha
    have h : Effect S capture m s (m.say []) a [] := .idle [] hs hr ha
    rwa [State.say_nil] at h
  cases s with
  | getDescriptors buffer length count =>
    simp only [stepWith]
    rcases S.source.getDescriptors_cases m buffer length count with
      ⟨hm, -, e, he, -⟩ | ⟨hf, hr, b, messages, rfl, hb, h⟩ | ⟨hf, hr, h⟩
    · rw [hm]
      exact hsilent (by simp) rfl ⟨e, he⟩
    · rw [h]
      refine .published messages hf hr (by simp) rfl (fun _ => rfl) fun _ => ?_
      exact congrArg some (ErrorSource.take_overwrite_descriptor hb _)
    · rw [h]
      exact .stuck hf hr (by simp) rfl rfl
  | descriptor =>
    simp only [stepWith]
    exact hsilent (by simp) rfl trivial
  | handleEvent buffer size =>
    simp only [stepWith]
    rcases handleEvent_effect (S := S) capture m buffer size with
      ⟨messages, e, size', -, hr, h⟩ |
      ⟨event, captured, outcome, inside, m', result, size', ha, hc, hr, hp, h⟩
    · rw [h]
      exact .idle messages (by simp) hr ⟨e, rfl⟩
    · rw [h]
      have hm := Effect.handled (s := .handleEvent buffer size) (a := .event ⟨result, size'⟩) []
        rfl ha hc hr hp rfl
      rwa [State.say_nil] at hm
  | handle buffer size => exact handle_effect rfl capture m rfl
  | dispatch buffer size =>
    simp only [stepWith]
    split
    · rename_i hk
      exact handle_effect rfl capture m (if_pos hk)
    · rename_i hk
      exact hsilent (by simp) (if_neg hk) trivial
  | callInterface call =>
    simp only [stepWith]
    split
    · rcases S.source.callInterface_cases m call with
        ⟨⟨messages, hm⟩, hs⟩ | ⟨hf, hr, b, messages, -, hb, hm, ha⟩ | ⟨hf, hr, hm, ha⟩
      · rw [hm]
        exact .idle messages (by simp) rfl hs
      · rw [hm, ha]
        refine .published messages hf hr (by simp) rfl (fun _ => rfl) fun _ => ?_
        exact congrArg some (ErrorSource.take_overwrite_descriptor_append hb _)
      · rw [hm]
        exact .stuck hf hr (by simp) rfl ha
    · exact hsilent (by simp) rfl trivial
  | withRegion inside => cases hs
  | config =>
    simp only [stepWith]
    exact hsilent (by simp) rfl trivial
  | install replies onRegister onInstall onUnregister => cases hs
  | outside e => exact .outside e rfl

theorem effect_of_eq {s : Step} (hs : s.isSingle = true) {m m' : State σ} {a : Answer}
    {inside : List Outcome} (h : S.stepWith capture s m = (m', a, inside)) :
    Effect S capture m s m' a inside := by
  have he := S.effect capture hs m
  rw [h] at he
  exact he

end Scenario
end FirmwareFirst
