import FirmwareFirst.Region
import FirmwareFirst.Source.Capture

/-!
# Error sources

An `ErrorSource` is an event source with its configuration: what is fixed from the start. Its
`State` is what calls change: the region, who is using it, and the event source's own state. A call
that finds the region in use by a call that has not returned yet is refused; `Hold` says who uses
it, and `State.view` what a caller gets to see of it. A call that leaves the memory never returns
and goes on using the region.
-/

namespace FirmwareFirst

/-- The platform's choices for one error source. -/
structure SourceConfig where
  /-- The identifier in the descriptor. -/
  sourceId : UInt16
  /-- The event that the operating system is notified through. -/
  event : UInt32
  /-- What the handler is registered under. -/
  handler : Guid
  /-- Where the memory reserved for the region lies. -/
  regionBase : UInt64
  regionSize : Nat
deriving DecidableEq

/-- The region in the reserved memory that the configuration names. -/
def SourceConfig.region (c : SourceConfig) (physical : UInt64 → UInt8) (maxSection : Nat) :
    Except Rejection Region :=
  Region.ofReserved physical c.regionBase c.regionSize maxSection

/-- Who uses the region at the moment. -/
inductive Hold
  /-- Nobody. -/
  | free
  /-- One reader, and `more` others. -/
  | shared (more : Nat)
  /-- One call that may change it. -/
  | exclusive
deriving DecidableEq

namespace Hold

/-- The hold with one more reader, where there may be one. -/
def share? : Hold → Option Hold
  | free => some (shared 0)
  | shared n => some (shared (n + 1))
  | exclusive => none

/-- The hold with one reader less. -/
def unshare : Hold → Hold
  | free => free
  | shared 0 => free
  | shared (n + 1) => shared n
  | exclusive => exclusive

/-- A reader that leaves restores the hold it found. -/
theorem unshare_share? {h k : Hold} (hk : h.share? = some k) : k.unshare = h := by
  cases h <;> cases hk <;> rfl

theorem ne_free_of_share? {h k : Hold} (hk : h.share? = some k) : k ≠ .free := by
  cases h <;> cases hk <;> simp

theorem share?_eq_none_iff {h : Hold} : h.share? = none ↔ h = exclusive := by
  cases h <;> simp [share?]

end Hold

/-- What an error source is made of. -/
structure ErrorSource (κ ρ σ : Type) where
  config : SourceConfig
  source : EventSource κ ρ σ

/-- What the firmware core remembers of an error source. -/
structure CoreRecord where
  /-- A handler was registered last, and not taken back since. -/
  handler : Bool
  /-- An interface was installed last. -/
  interface : Bool
deriving DecidableEq

/-- What calls to an error source change. -/
structure State (σ : Type) where
  region : Region
  hold : Hold
  /-- The event source's own state. -/
  inner : σ
  /-- The event source is capturing an event. -/
  capturing : Bool
  core : CoreRecord
  platform : Platform

namespace State

variable {σ : Type}

/-- The state with more messages logged. -/
def say (m : State σ) (messages : List Message) : State σ :=
  { m with platform := m.platform.say messages }

/-- The region, unless a call that may change it is under way. -/
def view (m : State σ) : Except CallError Region :=
  match m.hold with
  | .exclusive => .error .reentrant
  | _ => .ok m.region

/-- The state in which an event is captured. -/
def lock (m : State σ) : State σ :=
  { m with hold := .exclusive, capturing := true }

/-- The state after a capture. -/
def unlock (m : State σ) : State σ :=
  { m with hold := .free, capturing := false }

@[simp] theorem region_say (m : State σ) (messages : List Message) :
    (m.say messages).region = m.region := rfl

@[simp] theorem hold_say (m : State σ) (messages : List Message) :
    (m.say messages).hold = m.hold := rfl

@[simp] theorem capturing_say (m : State σ) (messages : List Message) :
    (m.say messages).capturing = m.capturing := rfl

theorem view_of_exclusive {m : State σ} (hm : m.hold = .exclusive) :
    m.view = .error .reentrant := by
  simp [view, hm]

theorem eq_region_of_view {m : State σ} {r : Region} (h : m.view = .ok r) : r = m.region := by
  unfold view at h
  split at h
  · cases h
  · exact (Except.ok.inj h).symm

theorem say_nil (m : State σ) : m.say [] = m := by
  rw [say, Platform.say_nil]

theorem say_say (m : State σ) (messages more : List Message) :
    (m.say messages).say more = m.say (messages ++ more) := by
  simp only [say, Platform.say_say]

@[simp] theorem region_lock (m : State σ) : m.lock.region = m.region := rfl

@[simp] theorem region_unlock (m : State σ) : m.unlock.region = m.region := rfl

end State

namespace ErrorSource

variable {κ ρ σ : Type}

/-- The state of a new error source that publishes into `region`, which must have room for its
sections. -/
def start (E : ErrorSource κ ρ σ) (region : Region) (platform : Platform) :
    Except Rejection (State σ) :=
  if region.maxSection < E.source.maxSection then
    .error ⟨.sectionTooLarge,
      [.sectionsTooLong E.config.sourceId region.maxSection E.source.maxSection]⟩
  else .ok
    { region := region
      hold := .free
      inner := E.source.initial
      capturing := false
      core := ⟨false, false⟩
      platform := platform }

/-- A new error source has room for its sections, and nobody uses it. -/
theorem of_start {E : ErrorSource κ ρ σ} {region : Region} {platform : Platform} {m : State σ}
    (h : E.start region platform = .ok m) :
    E.source.maxSection ≤ region.maxSection ∧ m.region = region ∧ m.platform = platform ∧
      m.hold = .free ∧ m.capturing = false := by
  unfold start at h
  split at h
  · cases h
  · cases h
    exact ⟨Nat.le_of_not_lt ‹_›, rfl, rfl, rfl, rfl⟩

/-- The state of a new error source that publishes into the memory its configuration names. -/
def startReserved (E : ErrorSource κ ρ σ) (physical : UInt64 → UInt8) (platform : Platform) :
    Except Rejection (State σ) :=
  match E.config.region physical E.source.maxSection with
  | .error r => .error r
  | .ok region => E.start region platform

end ErrorSource
end FirmwareFirst
