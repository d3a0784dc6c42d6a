import FirmwareFirst.Proofs.SharedMemory

/-!
# Calls that fail

A call that fails leaves the region, the caller's buffer and, the sizes it always answers aside, the
caller's variables as they were. A call that handles an event to the end changes nothing of the
region but the front of its status block. While the event is captured the region may be written to
from outside, and that is all that is seen of it afterwards.
-/

namespace FirmwareFirst

open Outcome (traces)

namespace ErrorSource

variable {κ ρ σ ω : Type} (E : ErrorSource κ ρ σ) {m : State σ}

/-! ## Asking for descriptors -/

/-- Nothing comes of asking for descriptors when they are not handed out. -/
theorem getDescriptors_of_error {buffer : Option Bytes} {length count : Option Nat} {e : CallError}
    (h : (E.getDescriptors m buffer length count).2.result = some (.error e)) :
    (E.getDescriptors m buffer length count).1 = m ∧
      (E.getDescriptors m buffer length count).2.buffer = buffer := by
  rcases E.getDescriptors_cases m buffer length count with
    ⟨hm, hb, -⟩ | ⟨-, -, b, messages, -, -, heq⟩ | ⟨-, -, heq⟩
  · exact ⟨hm, hb⟩
  · rw [heq] at h
    cases h
  · rw [heq] at h
    cases h

/-- A caller who wants to know both is told how much room the descriptors take and how many they
are, whatever comes of the call. -/
theorem getDescriptors_sizes (m : State σ) (buffer : Option Bytes) (length count : Nat) :
    (E.getDescriptors m buffer (some length) (some count)).2.length = some descriptorsLength ∧
      (E.getDescriptors m buffer (some length) (some count)).2.count = some descriptorCount := by
  unfold getDescriptors
  cases buffer with
  | none => exact ⟨rfl, rfl⟩
  | some b =>
    simp only []
    split
    · exact ⟨rfl, rfl⟩
    · split
      · exact ⟨rfl, rfl⟩
      · rcases m.region.prepare with ⟨region, _ | log⟩ <;> exact ⟨rfl, rfl⟩

/-- A caller who leaves one out is told neither. -/
theorem getDescriptors_of_missing (m : State σ) (buffer : Option Bytes) {length count : Option Nat}
    (h : length = none ∨ count = none) :
    E.getDescriptors m buffer length count =
      (m, ⟨some (.error .invalidParameter), length, count, buffer⟩) := by
  rcases h with rfl | rfl
  · rfl
  · cases length <;> rfl

/-! ## Handling an event -/

/-- The size variable is set to zero when an event is handled to the end, and left alone
otherwise. -/
theorem handleEvent_size
    (capture : Bytes → State σ → State σ × Except CallError (Report Bytes) × List ω)
    (m : State σ) (buffer : Option Bytes) (size : Option Nat) :
    (E.handleEvent capture m buffer size).2.1.size =
      match (E.handleEvent capture m buffer size).2.1.result with
      | some (.ok ()) => some 0
      | _ => size := by
  unfold handleEvent
  split
  · rfl
  · simp only []
    split <;> rfl

/-- The handler of the firmware core does to the region and to the caller's variables what handling
the event does, and leaves the caller's buffer alone. -/
theorem handle_eq (capture : Bytes → State σ → State σ × Except CallError (Report Bytes) × List ω)
    (m : State σ) (buffer : Option Bytes) (size : Option Nat) :
    (E.handle capture m buffer size).1.region = (E.handleEvent capture m buffer size).1.region ∧
      (E.handle capture m buffer size).2.1 =
        ⟨(E.handleEvent capture m buffer size).2.1.result.map .ofResult,
          (E.handleEvent capture m buffer size).2.1.size, buffer⟩ := by
  refine ⟨?_, rfl⟩
  unfold handle
  simp only []
  split
  · split <;> rfl
  · rfl

end ErrorSource

/-- A report that is written changes no byte but those of its status block. -/
theorem Region.getElem?_of_write {r r' : Region} {sectionType : Guid} {report : Report Bytes}
    (h : r.write sectionType report = some (.ok r')) {i : Nat}
    (hi : ¬ (16 ≤ i ∧ i < 108 + report.content.length)) : r'.memory[i]? = r.memory[i]? := by
  obtain ⟨-, -, hroom, rfl⟩ := write_eq_ok_iff.1 h
  have hlength := length_blockOf sectionType report
  rw [getElem?_store r (by omega), if_neg (by omega)]

namespace Scenario

variable {σ : Type} {S : Scenario σ} {capture : Capturing σ}

/-- What handling an event does to the region: if the event is handled to the end, its report is
written over what has happened outside of the error source meanwhile; where there is no room for the
report, the call never returns. -/
theorem handleEvent_region (hcapture : Discreet S capture) {m m' : State σ} {buffer : Option Bytes}
    {size : Option Nat} {a : EventAnswer} {inside : List Outcome}
    (h : S.source.handleEvent capture m buffer size = (m', a, inside)) :
    (m'.region = m.region.outsideAll (traces inside) ∧ ∃ e, a.result = some (.error e)) ∨
    (a.result = some (.ok ()) ∧ ∃ report, S.reportOf? capture m buffer size = some report ∧
      (m.region.outsideAll (traces inside)).write S.source.source.sectionType report =
        some (.ok m'.region)) ∨
    (a.result = none ∧ ∃ report, S.reportOf? capture m buffer size = some report ∧
      (m.region.outsideAll (traces inside)).write S.source.source.sectionType report =
        none) := by
  rcases handleEvent_effect (S := S) capture m buffer size with
    ⟨messages, e, size', -, -, h'⟩ |
    ⟨event, captured, outcome, inside', m₁, result, size', -, hcap, hr, hpub, h'⟩
  · rw [h'] at h
    cases h
    exact .inl ⟨(Region.outsideAll_nil _).symm, e, rfl⟩
  · rw [h'] at h
    cases h
    rw [hr, ← hcapture.region_eq hcap]
    rcases S.source.publish_cases hpub with ⟨rfl, e, rfl, -⟩ | ⟨report, r, rfl, hw, rfl, rfl⟩ |
      ⟨report, rfl, hw, -, rfl⟩
    · exact .inl ⟨rfl, e, rfl⟩
    · exact .inr (.inl ⟨rfl, report, rfl, hw⟩)
    · exact .inr (.inr ⟨rfl, report, rfl, hw⟩)

/-- **A call that fails changes nothing**, whatever the source, the state and the arguments are. If
an event is not handled to the end, the region is as it was but for what was written to it from
outside while the event was captured, and so is the caller's size; otherwise the size is zero, and
but for such writes only bytes of the header, of the data entry and of the section have changed. If
the descriptors are not handed out, nothing has changed but the length and the count, which are
answered to whoever asks for both. To ask for the descriptor that was handed out changes nothing,
and neither does the handler of the firmware core change its caller's buffer. -/
theorem failed_calls_change_nothing (S : Scenario σ) (m : State σ) :
    (∀ buffer size {m' : State σ} {a : EventAnswer} {inside : List Outcome},
      S.source.handleEvent S.capture m buffer size = (m', a, inside) →
      (∀ e, a.result = some (.error e) → m'.region = m.region.outsideAll (traces inside) ∧
        m'.region.prepared = m.region.prepared ∧ a.size = size) ∧
      (a.result = some (.ok ()) → a.size = some 0 ∧
        ∃ report, S.reportOf? S.capture m buffer size = some report ∧
          ∀ i, ¬ (16 ≤ i ∧ i < 108 + report.content.length) →
            m'.region.memory[i]? = (m.region.outsideAll (traces inside)).memory[i]?)) ∧
    (∀ buffer size,
      (S.source.handle S.capture m buffer size).1.region =
        (S.source.handleEvent S.capture m buffer size).1.region ∧
      (S.source.handle S.capture m buffer size).2.1 =
        ⟨(S.source.handleEvent S.capture m buffer size).2.1.result.map .ofResult,
          (S.source.handleEvent S.capture m buffer size).2.1.size, buffer⟩) ∧
    (∀ buffer length count,
      (∀ e, (S.source.getDescriptors m buffer length count).2.result = some (.error e) →
        (S.source.getDescriptors m buffer length count).1 = m ∧
          (S.source.getDescriptors m buffer length count).2.buffer = buffer) ∧
      (length.isSome = true ∧ count.isSome = true →
        (S.source.getDescriptors m buffer length count).2.length = some 92 ∧
          (S.source.getDescriptors m buffer length count).2.count = some 1) ∧
      (length = none ∨ count = none →
        (S.source.getDescriptors m buffer length count).2.length = length ∧
          (S.source.getDescriptors m buffer length count).2.count = count)) ∧
    (S.step .descriptor m).1 = m := by
  refine ⟨?_, S.source.handle_eq S.capture m, fun buffer length count => ⟨?_, ?_, ?_⟩, rfl⟩
  · intro buffer size m' a inside h
    have hsize := S.source.handleEvent_size S.capture m buffer size
    rw [h] at hsize
    rcases handleEvent_region S.capture_discreet h with
      ⟨hregion, e, he⟩ | ⟨hok, report, hreport, hwrite⟩ | ⟨hnever, -⟩
    · refine ⟨fun e' he' => ⟨hregion, ?_, ?_⟩, fun hok => ?_⟩
      · rw [hregion, Region.prepared_outsideAll]
      · simpa only [he'] using hsize
      · rw [he] at hok
        cases hok
    · refine ⟨fun e he => ?_, fun _ => ⟨?_, report, hreport, fun i hi => ?_⟩⟩
      · rw [hok] at he
        cases he
      · simpa only [hok] using hsize
      · exact Region.getElem?_of_write hwrite hi
    · constructor
      · intro e he
        rw [hnever] at he
        cases he
      · intro hok
        rw [hnever] at hok
        cases hok
  · intro e he
    exact S.source.getDescriptors_of_error he
  · rintro ⟨hlength, hcount⟩
    obtain ⟨l, rfl⟩ := Option.isSome_iff_exists.1 hlength
    obtain ⟨n, rfl⟩ := Option.isSome_iff_exists.1 hcount
    exact S.source.getDescriptors_sizes m buffer l n
  · intro hmissing
    rw [S.source.getDescriptors_of_missing m buffer hmissing]
    exact ⟨rfl, rfl⟩

end Scenario

/-- The sample source once its descriptors have been handed out. -/
def Sample.published : State Nat :=
  (scenario.run (steps.take 3) start).1

/-- The sample source refuses to put its descriptors into an empty buffer, and an event that comes
before they are handed out. When it handles one, it leaves the byte behind the section alone. -/
theorem failed_calls_change_nothing_sample :
    (Sample.scenario.source.getDescriptors Sample.start (some []) (some 5) (some 6)).2.length =
      some 92 ∧
    (Sample.scenario.source.getDescriptors Sample.start (some []) (some 5) (some 6)).2.buffer =
      some [] ∧
    (Sample.scenario.source.getDescriptors Sample.start (some []) none (some 6)).2.count = some 6 ∧
    (Sample.scenario.source.handleEvent Sample.scenario.capture Sample.start (some [8, 9])
      (some 2)).1.region = Sample.region ∧
    (Sample.scenario.source.handleEvent Sample.scenario.capture Sample.published (some [8, 9])
      (some 2)).1.region.memory[111]? = some 0 := by
  obtain ⟨hevent, -, hdescriptors, -⟩ := Sample.scenario.failed_calls_change_nothing Sample.start
  obtain ⟨hsame, hsizes, -⟩ := hdescriptors (some []) (some 5) (some 6)
  obtain ⟨-, -, hmissing⟩ := hdescriptors (some []) none (some 6)
  obtain ⟨hpublished, -⟩ := Sample.scenario.failed_calls_change_nothing Sample.published
  refine ⟨(hsizes (by decide)).1, (hsame _ rfl).2, (hmissing (.inl rfl)).2, ?_, ?_⟩
  · obtain ⟨hrefused, -⟩ := hevent (some [8, 9]) (some 2) rfl
    exact (hrefused .notReady rfl).1
  · have hok : (Sample.scenario.source.handleEvent Sample.scenario.capture Sample.published
        (some [8, 9]) (some 2)).2.1.result = some (.ok ()) := by
      decide +kernel
    have hbefore : (Sample.published.region.outsideAll (traces (Sample.scenario.source.handleEvent
        Sample.scenario.capture Sample.published (some [8, 9]) (some 2)).2.2)).memory[111]? =
          some 0 := by
      decide +kernel
    rcases h : Sample.scenario.source.handleEvent Sample.scenario.capture Sample.published
      (some [8, 9]) (some 2) with ⟨m', a, inside⟩
    rw [h] at hok hbefore
    obtain ⟨-, hhandled⟩ := hpublished _ _ h
    obtain ⟨-, report, hreport, hbytes⟩ := hhandled hok
    have hcaptured : Sample.scenario.reportOf? Sample.scenario.capture Sample.published
        (some [8, 9]) (some 2) = some ⟨⟨.corrected, .empty, 0⟩, [1, 2, 3]⟩ := by
      decide +kernel
    rw [hcaptured] at hreport
    cases hreport
    rw [hbytes 111 (by decide), hbefore]

end FirmwareFirst
