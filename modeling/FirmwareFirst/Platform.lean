import FirmwareFirst.Message
import FirmwareFirst.Wire.Layout

/-!
# Platforms

The hardware that a RAM error source reads, and the record of what happens on it. Registers are
reached through one of two buses: a bank of registers, whose accesses are recorded and whose
reaction to a write can be chosen, or a device, which is plain memory.
-/

namespace FirmwareFirst

/-- What a write does to a register. -/
inductive WriteEffect
  /-- Bits that are one in the written value are cleared. -/
  | clearOnes
  /-- The written value replaces the old one. -/
  | replace
  /-- Nothing. -/
  | ignore
deriving DecidableEq

/-- The value of a register after `written` is written to it. -/
def WriteEffect.apply (e : WriteEffect) (value written : UInt32) : UInt32 :=
  match e with
  | clearOnes => value &&& ~~~written
  | replace => written
  | ignore => value

/-- A bank of 32-bit registers. -/
structure RegisterBank where
  value : UInt64 → UInt32
  effect : WriteEffect

namespace RegisterBank

/-- The bank with the value of one register replaced. -/
def set (b : RegisterBank) (address : UInt64) (v : UInt32) : RegisterBank :=
  { b with value := fun a => if a = address then v else b.value a }

/-- The bank after a write. -/
def write (b : RegisterBank) (address : UInt64) (v : UInt32) : RegisterBank :=
  b.set address (b.effect.apply (b.value address) v)

end RegisterBank

/-- A device of plain memory. -/
structure Device where
  base : UInt64
  memory : Bytes

namespace Device

/-- Where an address lies in the memory. -/
def offset (d : Device) (address : UInt64) : Nat := (address - d.base).toNat

/-- The word at an address. -/
def load (d : Device) (address : UInt64) : UInt32 :=
  Layout.uint32.decode (d.memory.drop (d.offset address))

/-- The device with bytes stored from an offset on. -/
def put (d : Device) (offset : Nat) (data : Bytes) : Device :=
  { d with memory := d.memory.overwrite offset data }

/-- The device with a word stored at an address. -/
def store (d : Device) (address : UInt64) (v : UInt32) : Device :=
  d.put (d.offset address) (Layout.uint32.encode v)

end Device

/-- What is recorded of a capture. -/
inductive Access
  | read (address : UInt64) (value : UInt32)
  | write (address : UInt64) (value : UInt32)
  | capture (event : Bytes)
deriving DecidableEq

/-- The way registers are reached. -/
inductive Bus
  | bank
  | device
deriving DecidableEq

/-- The hardware and the record of what happened. -/
structure Platform where
  bank : RegisterBank
  device : Device
  /-- The recorded accesses, oldest first. -/
  accesses : List Access
  /-- The logged messages, oldest first. -/
  log : List Message
  /-- The bits that hardware set in registers where they were clear, oldest first. -/
  arrivals : List (UInt64 × UInt32) := []

namespace Platform

/-- The platform with more messages logged. -/
def say (p : Platform) (messages : List Message) : Platform :=
  { p with log := p.log ++ messages }

theorem say_nil (p : Platform) : p.say [] = p := by
  simp [say]

theorem say_say (p : Platform) (messages more : List Message) :
    (p.say messages).say more = p.say (messages ++ more) := by
  simp [say]

/-- The platform with one more access recorded. -/
def record (p : Platform) (a : Access) : Platform :=
  { p with accesses := p.accesses ++ [a] }

/-- The platform with only that on record which was not yet when the platform was `old`. -/
def since (p old : Platform) : Platform :=
  { p with accesses := p.accesses.drop old.accesses.length, log := p.log.drop old.log.length }

/-- The value of a register. -/
def peek (p : Platform) : Bus → UInt64 → UInt32
  | .bank, address => p.bank.value address
  | .device, address => p.device.load address

/-- The platform after a register is read. -/
def load (p : Platform) : Bus → UInt64 → Platform
  | .bank, address => p.record (.read address (p.bank.value address))
  | .device, _ => p

/-- The platform after a register is written. -/
def store (p : Platform) : Bus → UInt64 → UInt32 → Platform
  | .bank, address, v => { p.record (.write address v) with bank := p.bank.write address v }
  | .device, address, v => { p with device := p.device.store address v }

/-- The platform after hardware sets bits of a register. -/
def raise (p : Platform) (address : UInt64) (bits : UInt32) : Platform :=
  let value := p.bank.value address
  { p with
    bank := p.bank.set address (value ||| bits)
    arrivals := p.arrivals ++ [(address, bits &&& ~~~value)] }

end Platform
end FirmwareFirst
