import Mathlib.Data.List.Forall2
import FirmwareFirst.Proofs.Beside
import FirmwareFirst.Proofs.ProcessorEvents
import FirmwareFirst.Proofs.Simulation

/-!
# What events keep to themselves

Two runs of the processor error source make the same calls with different arguments (`Step.Pair`).
`ProcessorSnapshot.Agrees` lists what the snapshots of two events must have in common to be reported
alike: of a processor outside its non-secure state, that is no register but the two that identify
it. If the snapshots agree, the two runs cannot be told apart (`Outcome.Alike`). If they are no more
than `LogsAlike`, the runs go on in states that differ in the bytes of the region only
(`State.Beside`), so that the same is logged. One argument serves both: states are beside each other
up to a proposition `same`, which says that the region is not to differ either.
-/

namespace FirmwareFirst

open Outcome (traces)

/-! ## Snapshots -/

namespace ProcessorSnapshot

variable {s t : ProcessorSnapshot}

/-- Two snapshots have in common what is logged of them. -/
structure LogsAlike (s t : ProcessorSnapshot) : Prop where
  status : t.status = s.status
  nonSecure : t.securityState = nonSecureState ↔ s.securityState = nonSecureState

/-- Two snapshots have in common what is reported of them. -/
structure Agrees (s t : ProcessorSnapshot) : Prop extends LogsAlike s t where
  misc : t.misc = s.misc
  address : t.address = s.address
  midr : t.el1[el1MidrIndex] = s.el1[el1MidrIndex]
  mpidr : t.el1[el1MpidrIndex] = s.el1[el1MpidrIndex]
  registers : s.securityState = nonSecureState →
    t.general = s.general ∧ t.el1 = s.el1 ∧ t.el2 = s.el2

namespace LogsAlike

theorem isNonSecure_eq (h : s.LogsAlike t) : t.isNonSecure = s.isNonSecure := by
  apply Bool.eq_iff_iff.2
  rw [isNonSecure, isNonSecure, beq_iff_eq, beq_iff_eq]
  exact h.nonSecure

theorem isCorrected_eq (h : s.LogsAlike t) : t.isCorrected = s.isCorrected := by
  rw [isCorrected, isCorrected, h.status]

theorem isDeferred_eq (h : s.LogsAlike t) : t.isDeferred = s.isDeferred := by
  rw [isDeferred, isDeferred, h.status]

theorem isOverflowed_eq (h : s.LogsAlike t) : t.isOverflowed = s.isOverflowed := by
  rw [isOverflowed, isOverflowed, h.status]

theorem summary_eq (h : s.LogsAlike t) : t.summary = s.summary := by
  rw [summary, summary, h.isCorrected_eq, h.isOverflowed_eq, h.isDeferred_eq]

theorem encodedMessage_eq (h : s.LogsAlike t) : t.encodedMessage = s.encodedMessage := by
  have hkind : t.fault.kind.code = s.fault.kind.code := by
    -- The level is part of the fault, but it does not settle its kind.
    simp only [fault, h.status]
    split <;> rfl
  rw [encodedMessage, encodedMessage, h.summary_eq, h.isNonSecure_eq]
  congr 1

end LogsAlike

namespace Agrees

theorem header_eq (h : s.Agrees t) : t.header = s.header := by
  simp only [header, h.isNonSecure_eq, h.midr, h.mpidr]

theorem fault_eq (h : s.Agrees t) : t.fault = s.fault := by
  rw [fault, fault, h.isCorrected_eq, h.status, level, level, h.misc]

theorem error_eq (h : s.Agrees t) : t.error = s.error := by
  rw [error, error, h.fault_eq, h.isCorrected_eq, h.isDeferred_eq, h.isOverflowed_eq, count, count,
    h.misc, h.address]

theorem contexts_eq (h : s.Agrees t) : t.contexts = s.contexts := by
  rw [contexts, contexts, h.isNonSecure_eq]
  by_cases hs : s.isNonSecure = true
  · obtain ⟨hgeneral, hel1, hel2⟩ := h.registers (beq_iff_eq.1 hs)
    simp only [hgeneral, hel1, hel2]
  · exact (if_neg hs).trans (if_neg hs).symm

/-- Snapshots that agree are reported alike. -/
theorem report_eq (h : s.Agrees t) : t.report = s.report := by
  rw [report, report, toSection, toSection, h.summary_eq, h.header_eq, h.error_eq, h.contexts_eq]

end Agrees
end ProcessorSnapshot

/-! ## Steps with different arguments -/

/-- Two payloads are of the same length, and their snapshots, if they hold any, are related. -/
structure PayloadPair (P : ProcessorSnapshot → ProcessorSnapshot → Prop) (b b' : Bytes) : Prop where
  length : b'.length = b.length
  snapshot : ProcessorSnapshot.layout.size ≤ b.length →
    P (ProcessorSnapshot.layout.decode b) (ProcessorSnapshot.layout.decode b')

/-- Two buffers to be filled are of the same length. -/
def SameLength (b b' : Bytes) : Prop := b'.length = b.length

/-- Both of two arguments are there or neither is. -/
def SamePresence {α : Type} : Option α → Option α → Prop := Option.Rel fun _ _ => True

/-- Two steps are the same but for the contents of the caller's buffers and variables, and the
snapshots of their events are related by `P`. -/
inductive Step.Pair (P : ProcessorSnapshot → ProcessorSnapshot → Prop) : Step → Step → Prop
  | getDescriptors {buffer buffer' : Option Bytes} {length length' count count' : Option Nat}
      (hbuffer : Option.Rel SameLength buffer buffer') (hlength : SamePresence length length')
      (hcount : SamePresence count count') :
      Pair P (.getDescriptors buffer length count) (.getDescriptors buffer' length' count')
  | descriptor : Pair P .descriptor .descriptor
  | handleEvent {buffer buffer' : Option Bytes} (size : Option Nat)
      (hbuffer : Option.Rel (PayloadPair P) buffer buffer') :
      Pair P (.handleEvent buffer size) (.handleEvent buffer' size)
  | handle {buffer buffer' : Option Bytes} (size : Option Nat)
      (hbuffer : Option.Rel (PayloadPair P) buffer buffer') :
      Pair P (.handle buffer size) (.handle buffer' size)
  | dispatch {buffer buffer' : Option Bytes} (size : Option Nat)
      (hbuffer : Option.Rel (PayloadPair P) buffer buffer') :
      Pair P (.dispatch buffer size) (.dispatch buffer' size)
  | callInterface {c c' : InterfaceCall} (hnull : c'.nullInterface = c.nullInterface)
      (hbuffer : Option.Rel (Option.Rel SameLength) c.buffer c'.buffer)
      (hlength : SamePresence c.length c'.length) (hcount : SamePresence c.count c'.count) :
      Pair P (.callInterface c) (.callInterface c')
  | withRegion {inside inside' : List Step} (h : List.Forall₂ (Pair P) inside inside') :
      Pair P (.withRegion inside) (.withRegion inside')
  | config : Pair P .config .config
  | install (replies : CoreReplies)
      {onRegister onInstall onUnregister onRegister' onInstall' onUnregister' : List Step}
      (hregister : List.Forall₂ (Pair P) onRegister onRegister')
      (hinstall : List.Forall₂ (Pair P) onInstall onInstall')
      (hunregister : List.Forall₂ (Pair P) onUnregister onUnregister') :
      Pair P (.install replies onRegister onInstall onUnregister)
        (.install replies onRegister' onInstall' onUnregister')
  | outside (event : Outside) : Pair P (.outside event) (.outside event)

/-! ## The same outcome -/

/-- Two calls do the same to a variable that held `x` and `x'` before and holds `y` and `y'` after
them: they leave the same in it, or both leave it as it was. -/
def LeftAlike {α : Type} (x x' y y' : α) : Prop :=
  y' = y ∨ y = x ∧ y' = x'

/-- Two calls do the same to every byte of a buffer. -/
def FilledAlike (b b' c c' : Option Bytes) : Prop :=
  ∀ i : Nat, LeftAlike (b.map (·[i]?)) (b'.map (·[i]?)) (c.map (·[i]?)) (c'.map (·[i]?))

theorem FilledAlike.kept (b b' : Option Bytes) : FilledAlike b b' b b' :=
  fun _ => .inr ⟨rfl, rfl⟩

/-- Bytes that are put at the front of two buffers. -/
theorem FilledAlike.overwrite {b b' data : Bytes} (hb : data.length ≤ b.length)
    (hb' : data.length ≤ b'.length) :
    FilledAlike (some b) (some b') (some (b.overwrite 0 data)) (some (b'.overwrite 0 data)) := by
  intro i
  have hfront : ∀ {m : Bytes}, data.length ≤ m.length →
      (m.overwrite 0 data)[i]? = if i < data.length then data[i]? else m[i]? := by
    intro m hm
    have hfit : 0 + data.length ≤ m.length := by omega
    simpa using Bytes.getElem?_overwrite hfit i
  simp only [Option.map_some, hfront hb, hfront hb']
  by_cases hi : i < data.length
  · rw [if_pos hi, if_pos hi]
    exact .inl rfl
  · rw [if_neg hi, if_neg hi]
    exact .inr ⟨rfl, rfl⟩

/-- Two calls with different arguments answer the same and do the same to the variables of their
callers. -/
inductive Answer.Alike : Step → Step → Answer → Answer → Prop
  | descriptors {buffer buffer' : Option Bytes} {length length' count count' : Option Nat}
      {a a' : DescriptorsAnswer} (hresult : a'.result = a.result)
      (hlength : LeftAlike length length' a.length a'.length)
      (hcount : LeftAlike count count' a.count a'.count)
      (hbuffer : FilledAlike buffer buffer' a.buffer a'.buffer) :
      Alike (.getDescriptors buffer length count) (.getDescriptors buffer' length' count')
        (.descriptors a) (.descriptors a')
  | interface {c c' : InterfaceCall} {a a' : InterfaceAnswer} (hstatus : a'.status = a.status)
      (hlength : LeftAlike c.length c'.length a.length a'.length)
      (hcount : LeftAlike c.count c'.count a.count a'.count)
      (hbuffer : FilledAlike c.buffer.join c'.buffer.join a.buffer.join a'.buffer.join) :
      Alike (.callInterface c) (.callInterface c') (.interface a) (.interface a')
  | handler {s s' : Step} {buffer buffer' : Option Bytes} {size : Option Nat}
      {a a' : HandlerAnswer} (hs : s.event? = some (buffer, size))
      (hs' : s'.event? = some (buffer', size)) (hstatus : a'.status = a.status)
      (hsize : a'.size = a.size) (hbuffer : FilledAlike buffer buffer' a.buffer a'.buffer) :
      Alike s s' (.handler a) (.handler a')
  | same (s s' : Step) (a : Answer) : Alike s s' a a

namespace Outcome

/-- Two outcomes of a call are the same, and so is the region afterwards. -/
def Alike (o o' : Outcome) : Prop :=
  Answer.Alike o.step o'.step o.answer o'.answer ∧ o'.after = o.after

variable {same : Prop} {os os' ps ps' : List Outcome}

/-- What happened in two runs is the same, if `same` holds. -/
def RunAlike (same : Prop) (os os' : List Outcome) : Prop :=
  same → List.Forall₂ Alike (traces os) (traces os')

theorem RunAlike.nil : RunAlike same [] [] := by
  intro _
  rw [traces_nil]
  exact .nil

theorem RunAlike.append (h : RunAlike same os os') (h' : RunAlike same ps ps') :
    RunAlike same (os ++ ps) (os' ++ ps') := by
  intro hs
  rw [traces_append, traces_append]
  exact List.rel_append (h hs) (h' hs)

theorem RunAlike.cons {s s' : Step} {a a' : Answer} {after after' : Except CallError Region}
    (hinside : RunAlike same os os') (ha : same → Answer.Alike s s' a a')
    (hafter : same → after' = after) (h : RunAlike same ps ps') :
    RunAlike same (.mk s a os after :: ps) (.mk s' a' os' after' :: ps') := by
  intro hs
  have hfirst : Alike (mk s a os after) (mk s' a' os' after') := ⟨ha hs, hafter hs⟩
  rw [traces_cons, traces_cons, trace_mk, trace_mk]
  exact List.rel_append (List.rel_append (hinside hs) (.cons hfirst .nil)) (h hs)

end Outcome

/-! ## Calls side by side -/

namespace ErrorSource

variable {κ ρ σ : Type} (E : ErrorSource κ ρ σ) {same : Prop} {m n : State σ}
  {buffer buffer' : Option Bytes} {length length' count count' : Option Nat}

/-- Descriptors that are asked for twice are handed out both times, refused both times, or neither
call returns. -/
theorem getDescriptors_beside (h : m.Beside same n) (hbuffer : Option.Rel SameLength buffer buffer')
    (hlength : SamePresence length length') (hcount : SamePresence count count') :
    (∃ e l c l' c', E.getDescriptors m buffer length count = (m, ⟨some (.error e), l, c, buffer⟩) ∧
      E.getDescriptors n buffer' length' count' = (n, ⟨some (.error e), l', c', buffer'⟩) ∧
      LeftAlike length length' l l' ∧ LeftAlike count count' c c') ∨
    (∃ b b' messages, buffer = some b ∧ buffer' = some b' ∧ descriptorsLength ≤ b.length ∧
      descriptorsLength ≤ b'.length ∧
      E.getDescriptors m buffer length count =
        (({ m with region := m.region.prepare.1 } : State σ).say messages,
          E.publication m.region.prepare.1 b) ∧
      E.getDescriptors n buffer' length' count' =
        (({ n with region := n.region.prepare.1 } : State σ).say messages,
          E.publication n.region.prepare.1 b')) ∨
    (E.getDescriptors m buffer length count =
        ({ m with region := m.region.prepare.1, hold := .exclusive },
          ⟨none, some descriptorsLength, some descriptorCount, buffer⟩) ∧
      E.getDescriptors n buffer' length' count' =
        ({ n with region := n.region.prepare.1, hold := .exclusive },
          ⟨none, some descriptorsLength, some descriptorCount, buffer'⟩)) := by
  cases hlength with
  | none => exact .inl ⟨_, _, _, _, _, rfl, rfl, .inr ⟨rfl, rfl⟩, .inr ⟨rfl, rfl⟩⟩
  | some _ =>
    cases hcount with
    | none => exact .inl ⟨_, _, _, _, _, rfl, rfl, .inr ⟨rfl, rfl⟩, .inr ⟨rfl, rfl⟩⟩
    | some _ =>
      cases hbuffer with
      | none => exact .inl ⟨_, _, _, _, _, rfl, rfl, .inl rfl, .inl rfl⟩
      | @some b b' hb =>
        have hb : b'.length = b.length := hb
        simp only [getDescriptors, hb, h.hold_eq]
        by_cases hshort : b.length < descriptorsLength
        · simp only [if_pos hshort]
          exact .inl ⟨_, _, _, _, _, rfl, rfl, .inl rfl, .inl rfl⟩
        by_cases hfree : m.hold ≠ .free
        · simp only [if_neg hshort, if_pos hfree]
          exact .inl ⟨_, _, _, _, _, rfl, rfl, .inl rfl, .inl rfl⟩
        · obtain ⟨-, hlog⟩ := h.region.prepare
          simp only [if_neg hshort, if_neg hfree]
          generalize n.region.prepare = prepared' at hlog ⊢
          generalize m.region.prepare = prepared at hlog ⊢
          obtain ⟨r', log'⟩ := prepared'
          obtain ⟨r, log⟩ := prepared
          cases hlog
          cases log' with
          | none => exact .inr (.inr ⟨rfl, rfl⟩)
          | some log => exact .inr (.inl ⟨b, b', _, rfl, rfl, by omega, by omega, rfl, rfl⟩)

theorem publication_beside {r r' : Region} (h : r.Beside same r') {b b' : Bytes}
    (hb : descriptorsLength ≤ b.length) (hb' : descriptorsLength ≤ b'.length) :
    FilledAlike (some b) (some b') (E.publication r b).buffer (E.publication r' b').buffer := by
  have hl : (Descriptor.layout.encode (E.descriptorFor r)).length = descriptorsLength :=
    Descriptor.layout.length_encode _
  rw [publication, publication, descriptorFor_congr E h.base h.maxSection]
  exact FilledAlike.overwrite (by omega) (by omega)

theorem getDescriptors_pair (h : m.Beside same n) (hbuffer : Option.Rel SameLength buffer buffer')
    (hlength : SamePresence length length') (hcount : SamePresence count count') :
    (E.getDescriptors m buffer length count).1.Beside same
        (E.getDescriptors n buffer' length' count').1 ∧
      Answer.Alike (.getDescriptors buffer length count) (.getDescriptors buffer' length' count')
        (.descriptors (E.getDescriptors m buffer length count).2)
        (.descriptors (E.getDescriptors n buffer' length' count').2) := by
  rcases E.getDescriptors_beside h hbuffer hlength hcount with
    ⟨e, l, c, l', c', hm, hn, hl, hc⟩ | ⟨b, b', messages, rfl, rfl, hb, hb', hm, hn⟩ | ⟨hm, hn⟩
  · rw [hm, hn]
    exact ⟨h, .descriptors rfl hl hc (.kept buffer buffer')⟩
  · rw [hm, hn]
    exact ⟨(h.withRegion h.region.prepare.1).say messages,
      .descriptors rfl (.inl rfl) (.inl rfl) (E.publication_beside h.region.prepare.1 hb hb')⟩
  · rw [hm, hn]
    exact ⟨(h.withRegion h.region.prepare.1).held .exclusive,
      .descriptors rfl (.inl rfl) (.inl rfl) (.kept buffer buffer')⟩

/-- A buffer whose first bytes alone were handed over, and filled. -/
theorem overwrite_take_append_drop {b data : Bytes} {k : Nat} (hdata : data.length = k)
    (hb : k ≤ b.length) : Bytes.overwrite (b.take k) 0 data ++ b.drop k = b.overwrite 0 data := by
  simp [Bytes.overwrite, hdata, hb]

/-- A buffer whose first bytes alone were handed over, and left as they were. -/
theorem join_map_take_append_drop (buffer : Option (Option Bytes)) (k : Nat) :
    (buffer.map (·.map fun b => (buffer.join.map (·.take k)).getD [] ++ b.drop k)).join =
      buffer.join := by
  rcases buffer with _ | _ | b
  · rfl
  · rfl
  · exact congrArg some (List.take_append_drop k b)

theorem callInterface_pair (h : m.Beside same n) {c c' : InterfaceCall}
    (hnull : c'.nullInterface = c.nullInterface)
    (hbuffer : Option.Rel (Option.Rel SameLength) c.buffer c'.buffer)
    (hlength : SamePresence c.length c'.length) (hcount : SamePresence c.count c'.count) :
    (E.callInterface m c).1.Beside same (E.callInterface n c').1 ∧
      Answer.Alike (.callInterface c) (.callInterface c') (.interface (E.callInterface m c).2)
        (.interface (E.callInterface n c').2) := by
  obtain ⟨null, buffer, length, count⟩ := c
  obtain ⟨null', buffer', length', count'⟩ := c'
  cases hnull
  cases null with
  | true =>
    exact ⟨h, .interface rfl (.inr ⟨rfl, rfl⟩) (.inr ⟨rfl, rfl⟩) (.kept buffer.join buffer'.join)⟩
  | false =>
    have htaken : Option.Rel SameLength (buffer.join.map (·.take descriptorsLength))
        (buffer'.join.map (·.take descriptorsLength)) := by
      cases hbuffer with
      | none => exact .none
      | some hb =>
        cases hb with
        | none => exact .none
        | some hb =>
          apply Option.Rel.some
          rw [SameLength, List.length_take, List.length_take, hb]
    rcases E.getDescriptors_beside h htaken hlength hcount with
      ⟨e, l, k, l', k', hm, hn, hl, hk⟩ | ⟨b, b', messages, hb, hb', hlong, hlong', hm, hn⟩ |
      ⟨hm, hn⟩
    · simp only [callInterface, hm, hn, if_neg Bool.false_ne_true]
      constructor
      · cases e
        case bufferTooSmall => exact h
        all_goals exact h.say _
      · refine .interface rfl hl hk ?_
        simp only [join_map_take_append_drop]
        exact .kept buffer.join buffer'.join
    · obtain ⟨d, hd, rfl⟩ := Option.map_eq_some_iff.1 hb
      obtain ⟨d', hd', rfl⟩ := Option.map_eq_some_iff.1 hb'
      rw [Option.join_eq_some_iff] at hd hd'
      cases hd
      cases hd'
      rw [List.length_take] at hlong hlong'
      simp only [callInterface, hm, hn, if_neg Bool.false_ne_true]
      refine ⟨(h.withRegion h.region.prepare.1).say messages,
        .interface rfl (.inl rfl) (.inl rfl) ?_⟩
      have hdescriptor : ∀ r, (Descriptor.layout.encode (E.descriptorFor r)).length =
          descriptorsLength := fun _ => Descriptor.layout.length_encode _
      simp only [publication, Option.getD_some, Option.map_some, Option.join_some]
      rw [overwrite_take_append_drop (hdescriptor _) (by omega),
        overwrite_take_append_drop (hdescriptor _) (by omega)]
      exact E.publication_beside h.region.prepare.1 (by omega) (by omega)
    · simp only [callInterface, hm, hn, if_neg Bool.false_ne_true]
      refine ⟨(h.withRegion h.region.prepare.1).held .exclusive,
        .interface rfl (.inl rfl) (.inl rfl) ?_⟩
      simp only [join_map_take_append_drop]
      exact .kept buffer.join buffer'.join

end ErrorSource

/-! ## Events side by side -/

namespace Scenario

variable {S : Scenario Unit} {P : ProcessorSnapshot → ProcessorSnapshot → Prop} {same : Prop}
  {m n : State Unit} {buffer buffer' : Option Bytes}

/-- Snapshots that `P` relates are logged alike, and if `same` holds, they are reported alike. -/
def Tells (same : Prop) (P : ProcessorSnapshot → ProcessorSnapshot → Prop) : Prop :=
  ∀ {s t}, P s t → s.LogsAlike t ∧ (same → s.Agrees t)

/-- Two events are both accepted or refused for the same reason. -/
theorem accept_beside (hsource : S.source.source = processorSource) (h : m.Beside same n)
    (hbuffer : Option.Rel (PayloadPair P) buffer buffer') (size : Option Nat) :
    (∃ r, S.source.accept m buffer size = .error r ∧ S.source.accept n buffer' size = .error r) ∨
    ∃ event event', S.source.accept m buffer size = .ok event ∧
      S.source.accept n buffer' size = .ok event' ∧ ProcessorSnapshot.layout.size ≤ event.length ∧
      ProcessorSnapshot.layout.size ≤ event'.length ∧
      P (ProcessorSnapshot.layout.decode event) (ProcessorSnapshot.layout.decode event') := by
  have hsize : S.source.source.eventSize = ProcessorSnapshot.layout.size := by
    rw [hsource]
    rfl
  cases hbuffer with
  | none => exact .inl ⟨_, rfl, rfl⟩
  | @some b b' hb =>
    cases size with
    | none => exact .inl ⟨_, rfl, rfl⟩
    | some k =>
      simp only [ErrorSource.accept, hsize, hb.length, h.hold_eq, h.region.prepared, h.capturing_eq]
      by_cases hshort : k < ProcessorSnapshot.layout.size ∨
          b.length < ProcessorSnapshot.layout.size
      · simp only [if_pos hshort]
        exact .inl ⟨_, rfl, rfl⟩
      by_cases hfree : m.hold ≠ .free
      · simp only [if_neg hshort, if_pos hfree]
        exact .inl ⟨_, rfl, rfl⟩
      simp only [if_neg hshort, if_neg hfree]
      cases hp : m.region.prepared with
      | false => exact .inl ⟨_, rfl, rfl⟩
      | true =>
        cases hc : m.capturing with
        | true => exact .inl ⟨_, rfl, rfl⟩
        | false =>
          rw [not_or] at hshort
          have hlong : ProcessorSnapshot.layout.size ≤ b.length := by omega
          have hlong' : ProcessorSnapshot.layout.size ≤ b'.length := by
            rw [hb.length]
            exact hlong
          refine .inr ⟨_, _, rfl, rfl, ?_, ?_, ?_⟩
          · rw [List.length_take_of_le hlong]
          · rw [List.length_take_of_le hlong']
          · rw [Layout.decode_take _ hlong, Layout.decode_take _ hlong']
            exact hb.snapshot hlong

/-- Two reports of snapshots that are logged alike are both published or both refused. -/
theorem publish_beside (h : m.Beside same n) {event event' : Bytes}
    (hlogs : (ProcessorSnapshot.layout.decode event).LogsAlike
      (ProcessorSnapshot.layout.decode event'))
    (hagrees : same → (ProcessorSnapshot.layout.decode event).Agrees
      (ProcessorSnapshot.layout.decode event')) :
    (S.source.publish m (.ok (ProcessorSnapshot.reportOf event))).1.Beside same
        (S.source.publish n (.ok (ProcessorSnapshot.reportOf event'))).1 ∧
      (S.source.publish n (.ok (ProcessorSnapshot.reportOf event'))).2 =
        (S.source.publish m (.ok (ProcessorSnapshot.reportOf event))).2 := by
  have hlength : (ProcessorSnapshot.reportOf event').content.length =
      (ProcessorSnapshot.reportOf event).content.length := by
    rw [ProcessorSnapshot.length_reportOf, ProcessorSnapshot.length_reportOf]
  have hreport : same → ProcessorSnapshot.reportOf event' = ProcessorSnapshot.reportOf event := by
    intro hs
    rw [ProcessorSnapshot.reportOf, ProcessorSnapshot.reportOf, (hagrees hs).report_eq]
  obtain ⟨hr, hsaid⟩ := h.region.publish S.source.source.sectionType
    (ProcessorSnapshot.reportOf event) (ProcessorSnapshot.reportOf event') hlogs.summary_eq hlength
    hreport
  simp only [ErrorSource.publish]
  generalize n.region.publish _ _ = published' at hr hsaid ⊢
  generalize m.region.publish _ _ = published at hr hsaid ⊢
  obtain ⟨r', said'⟩ := published'
  obtain ⟨r, said⟩ := published
  cases hsaid
  rcases said' with _ | ⟨log, result⟩
  · exact ⟨h.withRegion hr, rfl⟩
  · exact ⟨(h.withRegion hr).say log, rfl⟩

/-- **Two events side by side** are answered alike, and nothing happens while they are captured. -/
theorem handleEvent_beside (hsource : S.source.source = processorSource) (hP : Tells same P)
    (h : m.Beside same n) (hbuffer : Option.Rel (PayloadPair P) buffer buffer')
    (size : Option Nat) :
    (S.source.handleEvent S.capture m buffer size).1.Beside same
        (S.source.handleEvent S.capture n buffer' size).1 ∧
      (S.source.handleEvent S.capture n buffer' size).2.1 =
        (S.source.handleEvent S.capture m buffer size).2.1 ∧
      (S.source.handleEvent S.capture m buffer size).2.2 = [] ∧
      (S.source.handleEvent S.capture n buffer' size).2.2 = [] := by
  rcases accept_beside hsource h hbuffer size with
    ⟨r, hm, hn⟩ | ⟨event, event', hm, hn, hlong, hlong', hsnapshot⟩
  · simp only [ErrorSource.handleEvent, hm, hn]
    exact ⟨h.say r.log, trivial, trivial, trivial⟩
  · obtain ⟨hlogs, hagrees⟩ := hP hsnapshot
    have hsaid := h.lock.say [(ProcessorSnapshot.layout.decode event).encodedMessage]
    have hpublished := publish_beside (S := S) hsaid hlogs hagrees
    simp only [ErrorSource.handleEvent, hm, hn, capture_processor hsource hlong,
      capture_processor hsource hlong', hlogs.encodedMessage_eq]
    generalize S.source.publish (m.lock.say _) _ = published at hpublished ⊢
    generalize S.source.publish (n.lock.say _) _ = published' at hpublished ⊢
    obtain ⟨k, result⟩ := published
    obtain ⟨k', result'⟩ := published'
    obtain ⟨hk, rfl⟩ := hpublished
    rcases result' with _ | e | ok
    · exact ⟨hk, rfl, rfl, rfl⟩
    · exact ⟨hk.unlock, rfl, rfl, rfl⟩
    · exact ⟨hk.unlock, rfl, rfl, rfl⟩

theorem handle_beside (hsource : S.source.source = processorSource) (hP : Tells same P)
    (h : m.Beside same n) (s s' : Step) {size : Option Nat} (hs : s.event? = some (buffer, size))
    (hs' : s'.event? = some (buffer', size))
    (hbuffer : Option.Rel (PayloadPair P) buffer buffer') :
    (S.source.handle S.capture m buffer size).1.Beside same
        (S.source.handle S.capture n buffer' size).1 ∧
      Answer.Alike s s' (.handler (S.source.handle S.capture m buffer size).2.1)
        (.handler (S.source.handle S.capture n buffer' size).2.1) ∧
      (S.source.handle S.capture m buffer size).2.2 = [] ∧
      (S.source.handle S.capture n buffer' size).2.2 = [] := by
  obtain ⟨hk, ha, hm, hn⟩ := handleEvent_beside hsource hP h hbuffer size
  simp only [ErrorSource.handle, ha, hm, hn]
  refine ⟨?_, .handler hs hs' rfl rfl (.kept buffer buffer'), trivial, trivial⟩
  cases (S.source.handleEvent S.capture m buffer size).2.1.result with
  | none => exact hk
  | some result =>
    simp only [Option.map_some]
    split
    · exact hk.say _
    · exact hk

/-! ## Runs side by side -/

/-- What an installation needs of states that are beside each other. -/
theorem coupling_beside (same : Prop) :
    Coupling (State.Beside (σ := Unit) same) (Outcome.RunAlike same) where
  say h := h.say
  core h := h.core
  base h := h.base_view
  append h := h.append

mutual

/-- A step keeps states beside each other, and from equal states it does the same. -/
theorem stepWith_beside (hsource : S.source.source = processorSource) (hP : Tells same P) :
    {s s' : Step} → {m n : State Unit} → Step.Pair P s s' → m.Beside same n →
      (S.stepWith S.capture s m).1.Beside same (S.stepWith S.capture s' n).1 ∧
      (same → Answer.Alike s s' (S.stepWith S.capture s m).2.1 (S.stepWith S.capture s' n).2.1) ∧
      Outcome.RunAlike same (S.stepWith S.capture s m).2.2 (S.stepWith S.capture s' n).2.2
  | _, _, m, n, .getDescriptors hbuffer hlength hcount, h => by
    obtain ⟨hk, ha⟩ := S.source.getDescriptors_pair h hbuffer hlength hcount
    rw [stepWith, stepWith]
    exact ⟨hk, fun _ => ha, .nil⟩
  | _, _, m, n, .descriptor, h => by
    rw [stepWith, stepWith]
    refine ⟨h, fun hs => ?_, .nil⟩
    rw [h.eq hs]
    exact .same _ _ _
  | _, _, m, n, .handleEvent size hbuffer, h => by
    obtain ⟨hk, ha, hm, hn⟩ := handleEvent_beside hsource hP h hbuffer size
    rw [stepWith, stepWith]
    simp only [ha, hm, hn]
    exact ⟨hk, fun _ => .same _ _ _, .nil⟩
  | _, _, m, n, .handle size hbuffer, h => by
    obtain ⟨hk, ha, hm, hn⟩ := handle_beside hsource hP h (.handle _ size) (.handle _ size) rfl rfl
      hbuffer
    rw [stepWith, stepWith]
    simp only [hm, hn]
    exact ⟨hk, fun _ => ha, .nil⟩
  | _, _, m, n, .dispatch size hbuffer, h => by
    obtain ⟨hk, ha, hm, hn⟩ := handle_beside hsource hP h (.dispatch _ size) (.dispatch _ size) rfl
      rfl hbuffer
    rw [stepWith, stepWith, h.core_eq]
    split
    · simp only [hm, hn]
      exact ⟨hk, fun _ => ha, .nil⟩
    · exact ⟨h, fun _ => .same _ _ _, .nil⟩
  | _, _, m, n, .callInterface hnull hbuffer hlength hcount, h => by
    obtain ⟨hk, ha⟩ := S.source.callInterface_pair h hnull hbuffer hlength hcount
    rw [stepWith, stepWith, h.core_eq]
    split
    · exact ⟨hk, fun _ => ha, .nil⟩
    · exact ⟨h, fun _ => .same _ _ _, .nil⟩
  | _, _, m, n, .withRegion hinside, h => by
    rw [stepWith, stepWith, h.hold_eq]
    cases hk : m.hold.share? with
    | none => exact ⟨h, fun _ => .same _ _ _, .nil⟩
    | some hold =>
      obtain ⟨hleft, halike⟩ := stepsWith_beside hsource hP hinside (h.held hold)
      refine ⟨?_, fun hs => ?_, halike⟩
      · simp only [hleft.hold_eq]
        exact hleft.held _
      · rw [h.eq hs]
        exact .same _ _ _
  | _, _, m, n, .install replies hregister hinstall hunregister, h => by
    have hstart : Simulation.Abreast (State.Beside same) (Outcome.RunAlike same) ⟨m, [], []⟩
        ⟨n, [], []⟩ := ⟨h, .nil, rfl⟩
    obtain ⟨hw, hresult⟩ := hstart.install (coupling_beside same) S.source.config replies
      (fun h => stepsWith_beside hsource hP hregister h)
      (fun h => stepsWith_beside hsource hP hinstall h)
      (fun h => stepsWith_beside hsource hP hunregister h)
    rw [stepWith, stepWith]
    refine ⟨hw.state, fun _ => ?_, hw.inside⟩
    simp only [hresult, hw.calls]
    exact .same _ _ _
  | _, _, m, n, .config, h => by
    rw [stepWith, stepWith]
    exact ⟨h, fun _ => .same _ _ _, .nil⟩
  | _, _, m, n, .outside event, h => by
    rw [stepWith, stepWith]
    exact ⟨h.outside event, fun _ => .same _ _ _, .nil⟩

/-- **Two runs side by side**, by induction on the pairing of their steps. -/
theorem stepsWith_beside (hsource : S.source.source = processorSource) (hP : Tells same P) :
    {ss ss' : List Step} → {m n : State Unit} → List.Forall₂ (Step.Pair P) ss ss' →
      m.Beside same n →
      (S.stepsWith S.capture ss m).1.Beside same (S.stepsWith S.capture ss' n).1 ∧
      Outcome.RunAlike same (S.stepsWith S.capture ss m).2 (S.stepsWith S.capture ss' n).2
  | _, _, m, n, .nil, h => by
    rw [stepsWith, stepsWith]
    exact ⟨h, .nil⟩
  | _, _, m, n, .cons hfirst hrest, h => by
    obtain ⟨hk, ha, hinside⟩ := stepWith_beside hsource hP hfirst h
    obtain ⟨hl, halike⟩ := stepsWith_beside hsource hP hrest hk
    rw [stepsWith, stepsWith]
    exact ⟨hl, hinside.cons ha (fun hs => by rw [hk.eq hs]) halike⟩

end

/-- **The secure state of a processor stays hidden.** Let a processor error source be called twice
from the same state, with the same calls inside of calls, with arguments of the same presence and
lengths, and with events whose snapshots agree: of a processor outside its non-secure state, the
registers need not, and EL3 registers never need to. Then nothing tells the two runs apart: every
call answers the same, does the same to its caller's variables and leaves the same region, and the
runs end in the same state, log and all. The log stays the same even if the events have no more in
common than their status registers and whether the processor was in its non-secure state. -/
theorem secure_state_hidden (hsource : S.source.source = processorSource) (m : State Unit) :
    (∀ {steps steps' : List Step},
      List.Forall₂ (Step.Pair ProcessorSnapshot.Agrees) steps steps' →
        (S.run steps' m).1 = (S.run steps m).1 ∧
        List.Forall₂ Outcome.Alike (traces (S.run steps m).2) (traces (S.run steps' m).2)) ∧
    (∀ {steps steps' : List Step},
      List.Forall₂ (Step.Pair ProcessorSnapshot.LogsAlike) steps steps' →
        (S.run steps' m).1.platform.log = (S.run steps m).1.platform.log) := by
  constructor
  · intro steps steps' h
    have htells : Tells True ProcessorSnapshot.Agrees := fun h => ⟨h.toLogsAlike, fun _ => h⟩
    obtain ⟨hleft, halike⟩ := stepsWith_beside hsource htells h (.refl True m)
    exact ⟨hleft.eq trivial, halike trivial⟩
  · intro steps steps' h
    have htells : Tells False ProcessorSnapshot.LogsAlike := fun h => ⟨h, nofun⟩
    have hleft := (stepsWith_beside (S := S) hsource htells h (.refl False m)).1
    exact congrArg Platform.log hleft.platform_eq

end Scenario

/-! ## Two runs with other secrets -/

namespace Sample

/-- A corrected error of one processor, in a security state and with some registers. -/
def snapshot (securityState registers el3 : UInt64) : ProcessorSnapshot where
  status := 0x1000402
  misc := 0
  address := 0x1234
  securityState := securityState
  general := .replicate _ registers
  el1 := .ofFn fun i =>
    if i.val = el1MidrIndex then 7 else if i.val = el1MpidrIndex then 9 else registers
  el2 := .replicate _ registers
  el3 := .replicate _ el3

/-- The descriptors are handed out into a buffer full of `byte`, and while the region is read, an
event is refused. Two events with the snapshots `s` and `t` are handled, the first with a `byte` to
spare. -/
def secretSteps (byte : UInt8) (s t : ProcessorSnapshot) : List Step :=
  [.getDescriptors (some (List.replicate 92 byte)) (some byte.toNat) (some 0),
    .withRegion [.handle (some (ProcessorSnapshot.layout.encode s)) (some 624)],
    .handleEvent (some (ProcessorSnapshot.layout.encode s ++ [byte])) (some 625),
    .handle (some (ProcessorSnapshot.layout.encode t)) (some 624)]

end Sample

theorem PayloadPair.of_encode {P : ProcessorSnapshot → ProcessorSnapshot → Prop}
    {s t : ProcessorSnapshot} (h : P s t) {rest rest' : Bytes}
    (hrest : rest'.length = rest.length) :
    PayloadPair P (ProcessorSnapshot.layout.encode s ++ rest)
      (ProcessorSnapshot.layout.encode t ++ rest') := by
  constructor
  · rw [List.length_append, List.length_append, Layout.length_encode, Layout.length_encode, hrest]
  · intro _
    rwa [Layout.decode_append, Layout.decode_append]

theorem Sample.secretSteps_pair {P : ProcessorSnapshot → ProcessorSnapshot → Prop}
    {s s' t t' : ProcessorSnapshot} (hs : P s s') (ht : P t t') (byte byte' : UInt8) :
    List.Forall₂ (Step.Pair P) (secretSteps byte s t) (secretSteps byte' s' t') := by
  have hevent : ∀ {u u' : ProcessorSnapshot}, P u u' →
      PayloadPair P (ProcessorSnapshot.layout.encode u) (ProcessorSnapshot.layout.encode u') := by
    intro u u' hu
    have h : PayloadPair P (ProcessorSnapshot.layout.encode u ++ [])
        (ProcessorSnapshot.layout.encode u' ++ []) := .of_encode hu rfl
    rwa [List.append_nil, List.append_nil] at h
  refine .cons ?_ (.cons ?_ (.cons ?_ (.cons ?_ .nil)))
  · refine .getDescriptors (.some ?_) (.some trivial) (.some trivial)
    rw [SameLength, List.length_replicate, List.length_replicate]
  · exact .withRegion (.cons (.handle _ (.some (hevent hs))) .nil)
  · exact .handleEvent _ (.some (.of_encode hs rfl))
  · exact .handle _ (.some (hevent ht))

/-- Secure registers change nothing at all, non-secure ones nothing in the log, although the event
that they come with is handled to the end. -/
theorem secure_state_hidden_sample :
    (traces (Sample.processorScenario.run
        (Sample.secretSteps 0 (Sample.snapshot 0 4 4) (Sample.snapshot 1 5 4))
        (Sample.processorStart 3)).2).countP Outcome.completes = 1 ∧
    (Sample.processorScenario.run
        (Sample.secretSteps 1 (Sample.snapshot 2 8 8) (Sample.snapshot 1 5 8))
        (Sample.processorStart 3)).1 =
      (Sample.processorScenario.run
        (Sample.secretSteps 0 (Sample.snapshot 0 4 4) (Sample.snapshot 1 5 4))
        (Sample.processorStart 3)).1 ∧
    (Sample.processorScenario.run
        (Sample.secretSteps 1 (Sample.snapshot 2 8 8) (Sample.snapshot 1 6 8))
        (Sample.processorStart 3)).1.platform.log =
      (Sample.processorScenario.run
        (Sample.secretSteps 0 (Sample.snapshot 0 4 4) (Sample.snapshot 1 5 4))
        (Sample.processorStart 3)).1.platform.log := by
  have hsecure : (Sample.snapshot 0 4 4).Agrees (Sample.snapshot 2 8 8) :=
    ⟨⟨rfl, by decide⟩, rfl, rfl, by decide, by decide, fun h => absurd h (by decide)⟩
  have hnonSecure : (Sample.snapshot 1 5 4).Agrees (Sample.snapshot 1 5 8) :=
    ⟨⟨rfl, by decide⟩, rfl, rfl, rfl, rfl, fun _ => ⟨rfl, rfl, rfl⟩⟩
  have hlogs : (Sample.snapshot 1 5 4).LogsAlike (Sample.snapshot 1 6 8) := ⟨rfl, by decide⟩
  obtain ⟨hagree, hlog⟩ := Scenario.secure_state_hidden (S := Sample.processorScenario) rfl
    (Sample.processorStart 3)
  refine ⟨by decide +kernel, ?_, ?_⟩
  · exact (hagree (Sample.secretSteps_pair hsecure hnonSecure 0 1)).1
  · exact hlog (Sample.secretSteps_pair hsecure.toLogsAlike hlogs 0 1)

end FirmwareFirst
