import FirmwareFirst.Proofs.SectionReading

/-!
# Registers in contexts

A register context has the same length whatever registers it is given: of more than it has room for
the first are kept, and behind fewer there are zeros. `RegisterContext.stores_leading_registers`
says so of its bytes, and that nothing but this is lost of the registers.
-/

namespace FirmwareFirst

/-- The first `n` of some registers, and zeros up to `n` if there are fewer. -/
def padded (n : Nat) (registers : List UInt64) : List UInt64 :=
  (registers.take n).rightpad n 0

/-- Registers from the `n`-th on are not asked for. -/
theorem fitRegisters_take (n : Nat) (registers : List UInt64) :
    fitRegisters n (registers.take n) = fitRegisters n registers := by
  apply Vector.ext
  intro i hi
  simp [fitRegisters]

theorem toList_fitRegisters_eq_padded (n : Nat) (registers : List UInt64) :
    (fitRegisters n registers).toList = padded n registers := by
  rw [← fitRegisters_take, toList_fitRegisters (List.length_take_le ..)]
  rfl

theorem fitRegisters_eq_iff {n : Nat} {registers others : List UInt64} :
    fitRegisters n registers = fitRegisters n others ↔ padded n registers = padded n others := by
  rw [← toList_fitRegisters_eq_padded, ← toList_fitRegisters_eq_padded, Vector.toList_inj]

theorem ContextKind.code_inj {kind other : ContextKind} :
    kind.code = other.code ↔ kind = other := by
  cases kind <;> cases other <;> decide

namespace RegisterContext

theorem registerBytes_eq (c : RegisterContext) :
    c.registerBytes = (Layout.uint64.array contextCapacity).encode c.registers := by
  rw [registerBytes, ProcessorReading.encode_registerContext]
  exact List.drop_left' (Layout.length_encode _ _)

theorem registerBytes_ofRegisters (kind : ContextKind) (registers : List UInt64) :
    (ofRegisters kind registers).registerBytes = registerArea (registers.take contextCapacity) := by
  rw [registerBytes_eq, ← encode_fitRegisters (List.length_take_le ..), fitRegisters_take]
  rfl

/-- Contexts differ in what they are given, as far as they have room for it. -/
theorem ofRegisters_eq_iff {kind other : ContextKind} {registers others : List UInt64} :
    ofRegisters kind registers = ofRegisters other others ↔
      kind = other ∧ padded contextCapacity registers = padded contextCapacity others := by
  rw [← fitRegisters_eq_iff, ← ContextKind.code_inj]
  simp [ofRegisters]

/-- What is asked of the context `c` that is to store some registers as those of a kind. -/
structure Stores (c : RegisterContext) (kind : ContextKind) (registers : List UInt64) : Prop where
  length : (layout.encode c).length = 264
  /-- The registers are behind a version, the kind and the length of the registers. -/
  stored : layout.encode c =
    packed [.ofUInt16 0, .ofUInt16 kind.code, .ofUInt32 256] ++ c.registerBytes
  registersLength : c.registersLength.toNat = 256
  /-- They are the first of those given, up to the 32nd, and zeros behind them. -/
  registerBytes : c.registerBytes =
    packed ((registers.take 32).map .ofUInt64) ++
      List.replicate (256 - 8 * min registers.length 32) 0
  length_registerBytes : c.registerBytes.length = 256
  decoded : layout.decode (layout.encode c) = c
  read : layout.read .whole (layout.encode c) = some (c, [])

theorem stores_ofRegisters (kind : ContextKind) (registers : List UInt64) :
    (ofRegisters kind registers).Stores kind registers where
  length := layout.length_encode _
  stored := by
    rw [registerBytes_eq, ProcessorReading.encode_registerContext]
    simp [ofRegisters, registersSize, contextCapacity, generalRegisterCount, Layout.encode_pair]
    rfl
  registersLength := rfl
  registerBytes := by
    rw [registerBytes_ofRegisters, registerArea, List.length_take, Nat.min_comm]
    rfl
  length_registerBytes := by
    rw [registerBytes_eq]
    exact Layout.length_encode _ _
  decoded := layout.decode_encode _
  read := (wire_round_trips .registerContext).read_encode _

/-- **A context stores the leading registers.** Whatever registers it is given, and however many, a
context takes 264 bytes: a version, its kind and a length of 256 for the registers, then the first
32 of them, each least significant byte first, and zeros where there are fewer. It is read back from
these bytes as it was. Two contexts are the same if and only if they are of one kind and their
registers agree up to the 32nd, where those that are missing count as zero. -/
theorem stores_leading_registers (kind : ContextKind) (registers : List UInt64) :
    (ofRegisters kind registers).Stores kind registers ∧
    ∀ other others, ofRegisters kind registers = ofRegisters other others ↔
      kind = other ∧ padded 32 registers = padded 32 others :=
  ⟨stores_ofRegisters kind registers, fun _ _ => ofRegisters_eq_iff⟩

/-- Of 33 registers the last one is dropped. -/
example : ofRegisters .general64 (List.replicate 33 1) =
    ofRegisters .general64 (List.replicate 32 1) := by
  decide

end RegisterContext
end FirmwareFirst
