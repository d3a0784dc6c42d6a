import FirmwareFirst.ErrorSource.Events
import FirmwareFirst.Installation

/-!
# Steps of a scenario

A scenario is what happens to one error source: calls to it, some of which hold other steps that
happen while the call is under way, and events outside of it. `Step` lists them, `Answer` says what
each of them answers, and an `Outcome` is an answer with the outcomes of the steps that happened
inside, and with what could be seen of the region when the step was over.
-/

namespace FirmwareFirst

/-- What happens outside of an error source. -/
inductive Outside
  /-- The operating system writes to the region. -/
  | writeMemory (offset : Nat) (data : Bytes)
  /-- Registers are given new values. -/
  | setRegisters (values : List (UInt64 × UInt32))
  /-- The hardware sets bits of a register. -/
  | raiseBits (address : UInt64) (bits : UInt32)
  /-- The device changes its memory. -/
  | writeDevice (offset : Nat) (data : Bytes)

/-- What the firmware core answers to the requests of an installation. -/
structure CoreReplies where
  register : Except Status Handle
  install : Except Status Handle
  unregister : Except Status Unit

/-- A request to the firmware core. -/
inductive CoreCall
  | register (handler : Guid)
  | install (protocol : Guid)
  | unregister (registration : Handle)
deriving DecidableEq

/-- Something that happens to an error source. -/
inductive Step where
  | getDescriptors (buffer : Option Bytes) (length count : Option Nat)
  | descriptor
  | handleEvent (buffer : Option Bytes) (size : Option Nat)
  | handle (buffer : Option Bytes) (size : Option Nat)
  /-- The firmware core calls the handler that it remembers. -/
  | dispatch (buffer : Option Bytes) (size : Option Nat)
  /-- The interface that the firmware core remembers is called. -/
  | callInterface (call : InterfaceCall)
  /-- The region is read, and while it is, `inside` happens. -/
  | withRegion (inside : List Step)
  | config
  /-- The source is installed with a core that answers `replies`, and while each request is under
  way, its list of steps happens. -/
  | install (replies : CoreReplies) (onRegister onInstall onUnregister : List Step)
  | outside (event : Outside)

/-- What a step answers. -/
inductive Answer where
  | descriptors (a : DescriptorsAnswer)
  | descriptor (d : Except CallError Descriptor)
  | event (a : EventAnswer)
  | handler (a : HandlerAnswer)
  | noHandler
  | interface (a : InterfaceAnswer)
  | noInterface
  | region (r : Except CallError Region)
  | config (c : SourceConfig)
  | installed (result : Except CallError Handle) (calls : List CoreCall)
  | done

/-- What came of a step. -/
inductive Outcome where
  | mk (step : Step) (answer : Answer) (inside : List Outcome) (after : Except CallError Region)

namespace Outcome

def step : Outcome → Step
  | mk s _ _ _ => s

def answer : Outcome → Answer
  | mk _ a _ _ => a

/-- The outcomes of the steps that happened inside, in order. -/
def inside : Outcome → List Outcome
  | mk _ _ os _ => os

/-- The region when the step was over, if it could be looked at. -/
def after : Outcome → Except CallError Region
  | mk _ _ _ r => r

end Outcome

/-- The state after an event outside of the error source. -/
def State.outside {σ : Type} (m : State σ) : Outside → State σ
  | .writeMemory offset data => { m with region := m.region.store offset data }
  | .setRegisters values =>
    { m with platform := { m.platform with
        bank := values.foldl (fun b v => b.set v.1 v.2) m.platform.bank } }
  | .raiseBits address bits =>
    { m with platform := m.platform.raise address bits }
  | .writeDevice offset data =>
    { m with platform := { m.platform with device := m.platform.device.put offset data } }

end FirmwareFirst
