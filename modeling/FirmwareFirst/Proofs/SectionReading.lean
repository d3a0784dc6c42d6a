import Mathlib.Algebra.Ring.Nat
import FirmwareFirst.Proofs.Secrecy
import FirmwareFirst.Proofs.WireFormat
import FirmwareFirst.Record.ProcessorReading

/-!
# Processor sections as they are read

A reader of a processor error section knows nothing of who wrote it: it goes by the counts and the
lengths that it finds. `processor_section_read` says that it finds in the section of every snapshot
what the snapshot tells, no more and no less, and that its way ends where the section does.
-/

namespace FirmwareFirst

namespace Layout

variable {α : Type} (l : Layout α)

/-- A value is read from its own bytes, and what follows them is left. -/
theorem read_front_append (a : α) (rest : Bytes) :
    l.read .front (l.encode a ++ rest) = some (a, rest) := by
  have hlength := l.length_encode a
  rw [l.read_front (by simp [hlength]), l.decode_append, List.drop_left' hlength]

theorem length_of_read_front {bs rest : Bytes} {a : α} (h : l.read .front bs = some (a, rest)) :
    l.size + rest.length = bs.length := by
  by_cases hfits : l.size ≤ bs.length
  · rw [l.read_front hfits] at h
    cases h
    rw [List.length_drop]
    omega
  · rw [l.read_of_not_fits (p := .front) hfits] at h
    cases h

end Layout

namespace ProcessorReading

variable {α β : Type} {read : Bytes → Option (α × Bytes)} {bs rest : Bytes}

/-! ## One thing behind another -/

/-- What is read value by value is read in a row. -/
theorem readMany_flatMap {encode : β → Bytes} {found : β → α} {xs : List β}
    (h : ∀ x ∈ xs, ∀ rest, read (encode x ++ rest) = some (found x, rest)) (rest : Bytes) :
    readMany read xs.length (xs.flatMap encode ++ rest) = some (xs.map found, rest) := by
  induction xs with
  | nil => rfl
  | cons x xs ih =>
    rw [List.forall_mem_cons] at h
    rw [List.flatMap_cons, List.append_assoc, List.length_cons, readMany, h.1]
    simp [ih h.2]

/-- If each thing accounts for the bytes that it takes, so does a row of them. -/
theorem length_readMany {cost : α → Nat}
    (hread : ∀ {bs a rest}, read bs = some (a, rest) → cost a + rest.length = bs.length) {n : Nat}
    {as : List α} (h : readMany read n bs = some (as, rest)) :
    as.length = n ∧ (as.map cost).sum + rest.length = bs.length := by
  induction n generalizing bs as with
  | zero =>
    cases h
    exact ⟨rfl, by simp⟩
  | succ n ih =>
    obtain ⟨⟨a, more⟩, ha, h⟩ := Option.bind_eq_some_iff.1 h
    obtain ⟨⟨as', rest'⟩, has, h⟩ := Option.bind_eq_some_iff.1 h
    cases h
    obtain ⟨hn, hcost⟩ := ih has
    have hfirst := hread ha
    refine ⟨by simp [hn], ?_⟩
    simp only [List.map_cons, List.sum_cons]
    omega

theorem length_of_readError {e : ProcessorError} (h : readError bs = some (e, rest)) :
    e.length.toNat + rest.length = bs.length := by
  obtain ⟨⟨e', more⟩, -, h⟩ := Option.bind_eq_some_iff.1 h
  simp only [] at h
  split at h
  · cases h
    rw [List.length_drop]
    omega
  · cases h

theorem length_of_readContext {c : ContextReading} (h : readContext bs = some (c, rest)) :
    8 + c.registers.length + rest.length = bs.length := by
  obtain ⟨⟨⟨version, kind, length⟩, more⟩, hhead, h⟩ := Option.bind_eq_some_iff.1 h
  simp only [] at h
  split at h
  · rename_i hlength
    have hhead := Layout.length_of_read_front _ hhead
    cases h
    have hsize : (Layout.uint16.pair <| Layout.uint16.pair Layout.uint32).size = 8 := rfl
    simp only [List.length_take_of_le hlength, List.length_drop]
    omega
  · cases h

/-- **A reader stays within the section.** It finds as many errors and contexts as are counted, and
these, with what is left behind them, are all that the section has behind its header. -/
theorem length_of_ofBytes? {r : ProcessorReading} (h : ofBytes? bs = some r) :
    r.errors.length = r.header.errorCount.toNat ∧
    r.contexts.length = r.header.contextCount.toNat ∧
    (r.errors.map fun e => e.length.toNat).sum +
      (r.contexts.map fun c => 8 + c.registers.length).sum + r.vendorData.length =
        r.header.sectionLength.toNat - 40 ∧
    r.header.sectionLength.toNat ≤ bs.length := by
  obtain ⟨⟨header, more⟩, -, h⟩ := Option.bind_eq_some_iff.1 h
  simp only [] at h
  split at h
  · rename_i hlength
    obtain ⟨⟨errors, body⟩, herrors, h⟩ := Option.bind_eq_some_iff.1 h
    obtain ⟨⟨contexts, vendor⟩, hcontexts, h⟩ := Option.bind_eq_some_iff.1 h
    cases h
    obtain ⟨hn, herrors⟩ := length_readMany length_of_readError herrors
    obtain ⟨hk, hcontexts⟩ := length_readMany length_of_readContext hcontexts
    refine ⟨hn, hk, ?_, hlength⟩
    rw [List.length_drop, List.length_take_of_le hlength,
      show ProcessorHeader.layout.size = 40 from rfl] at herrors
    simp only [] at hcontexts ⊢
    omega
  · cases h

/-! ## Errors and contexts -/

theorem readError_append {e : ProcessorError} (h : e.length.toNat = 32) (rest : Bytes) :
    readError (ProcessorError.layout.encode e ++ rest) = some (e, rest) := by
  have hlength : (ProcessorError.layout.encode e).length = 32 :=
    ProcessorError.layout.length_encode e
  rw [readError, Layout.read_front_append]
  simp [h, hlength]

/-- The registers of a context are stored behind its other fields. -/
theorem encode_registerContext (c : RegisterContext) :
    RegisterContext.layout.encode c =
      (Layout.uint16.pair <| Layout.uint16.pair Layout.uint32).encode
        (c.version, c.kind, c.registersLength) ++
      (Layout.uint64.array contextCapacity).encode c.registers := by
  simp [RegisterContext.layout, RegisterContext.fields, Layout.encode_as, Layout.encode_pair]

theorem readContext_append {c : RegisterContext} (h : c.registersLength.toNat = 256)
    (rest : Bytes) : readContext (RegisterContext.layout.encode c ++ rest) =
      some (⟨c.kind, (Layout.uint64.array contextCapacity).encode c.registers⟩, rest) := by
  have hlength : ((Layout.uint64.array contextCapacity).encode c.registers).length = 256 :=
    Layout.length_encode _ _
  rw [readContext, encode_registerContext, List.append_assoc, Layout.read_front_append]
  simp [h, hlength]

end ProcessorReading

/-! ## Registers in a context -/

/-- The registers of a context as they are stored: those that it has, and zeros up to the length
that contexts of all kinds share. -/
def registerArea (registers : List UInt64) : Bytes :=
  packed (registers.map .ofUInt64) ++ List.replicate (256 - 8 * registers.length) 0

theorem toList_fitRegisters {n : Nat} {registers : List UInt64} (h : registers.length ≤ n) :
    (fitRegisters n registers).toList = registers ++ List.replicate (n - registers.length) 0 := by
  apply List.ext_getElem
  · simp
    omega
  · intro i hi hi'
    simp only [fitRegisters, Vector.toList_ofFn, List.getElem_ofFn, List.getElem_append,
      List.getD_eq_getElem?_getD, List.getElem_replicate]
    split <;> simp [*]

theorem packed_zeros (k : Nat) :
    packed ((List.replicate k 0).map .ofUInt64) = List.replicate (8 * k) 0 := by
  induction k with
  | zero => rfl
  | succ k ih =>
    have hword : (Word.ofUInt64 0).bytes = List.replicate 8 0 := rfl
    rw [List.replicate_succ, List.map_cons, packed_cons, ih, hword,
      List.replicate_append_replicate, Nat.mul_succ, Nat.add_comm]

theorem encode_fitRegisters {registers : List UInt64} (h : registers.length ≤ contextCapacity) :
    (Layout.uint64.array contextCapacity).encode (fitRegisters contextCapacity registers) =
      registerArea registers := by
  have hzeros : 256 - 8 * registers.length = 8 * (contextCapacity - registers.length) := by
    have hcapacity : contextCapacity = 32 := rfl
    omega
  have hwords : ∀ values : List UInt64,
      values.flatMap Layout.uint64.encode = packed (values.map .ofUInt64) := by
    simp
  rw [Layout.encode_array, toList_fitRegisters h, List.flatMap_append, hwords, hwords,
    packed_zeros, registerArea, hzeros]

/-- Registers are told apart by their bytes. -/
theorem registerArea_injective {n : Nat} {v w : Vector UInt64 n}
    (h : registerArea v.toList = registerArea w.toList) : v = w := by
  have hwords : ∀ v : Vector UInt64 n,
      packed (v.toList.map .ofUInt64) = (Layout.uint64.array n).encode v := by
    intro v
    simp [Layout.encode_array]
  rw [registerArea, registerArea, hwords, hwords, Vector.length_toList, Vector.length_toList] at h
  have hdecoded := congrArg (Layout.uint64.array n).decode h
  rwa [Layout.decode_append, Layout.decode_append] at hdecoded

/-- A context is read back with its registers. -/
theorem ProcessorReading.readContext_ofRegisters (kind : ContextKind) {registers : List UInt64}
    (h : registers.length ≤ contextCapacity) (rest : Bytes) :
    readContext (RegisterContext.layout.encode (.ofRegisters kind registers) ++ rest) =
      some (⟨kind.code, registerArea registers⟩, rest) := by
  rw [readContext_append rfl, ← encode_fitRegisters h]
  rfl

/-! ## The section of a snapshot -/

namespace ProcessorSnapshot

open ProcessorReading (ofBytes? readMany readError readContext)

variable {s t : ProcessorSnapshot}

/-- Up to the contexts, the section of a snapshot is read in the same way whatever follows it. -/
theorem ofBytes?_append (s : ProcessorSnapshot) (rest : Bytes) :
    ofBytes? (ProcessorSection.layout.encode s.toSection ++ rest) =
      (readMany readContext s.header.contextCount.toNat
        ((RegisterContext.layout.array sectionContextCount).encode s.contexts)).map
          fun found => ⟨s.header, [s.error], found.1, found.2⟩ := by
  have hencode : ProcessorSection.layout.encode s.toSection =
      ProcessorHeader.layout.encode s.header ++ (ProcessorError.layout.encode s.error ++
        (RegisterContext.layout.array sectionContextCount).encode s.contexts) := rfl
  have hlength : (ProcessorSection.layout.encode s.toSection).length = 864 :=
    ProcessorSection.layout.length_encode _
  have hsection : s.header.sectionLength.toNat = 864 := rfl
  have herror : s.error.length.toNat = 32 := rfl
  have hcount : s.header.errorCount.toNat = 1 := rfl
  have hheader : ProcessorHeader.layout.read .front
      (ProcessorSection.layout.encode s.toSection ++ rest) = some (s.header,
        ProcessorError.layout.encode s.error ++
          (RegisterContext.layout.array sectionContextCount).encode s.contexts ++ rest) := by
    rw [hencode, List.append_assoc, Layout.read_front_append]
  have hbody : ((ProcessorSection.layout.encode s.toSection ++ rest).take 864).drop
      ProcessorHeader.layout.size = ProcessorError.layout.encode s.error ++
        (RegisterContext.layout.array sectionContextCount).encode s.contexts := by
    rw [List.take_left' hlength, hencode,
      List.drop_left' (ProcessorHeader.layout.length_encode _)]
  rw [ofBytes?, hheader]
  simp only [Option.bind_eq_bind, Option.bind_some, hsection, hcount]
  rw [if_pos (by simp [hlength]), hbody, readMany, ProcessorReading.readError_append herror]
  exact Option.map_eq_bind.symm

theorem isNonSecure_iff : s.isNonSecure = true ↔ s.securityState = 1 :=
  beq_iff_eq

/-- The registers of a snapshot that are reported, each kind with its context. -/
def reported (s : ProcessorSnapshot) : List (ContextKind × List UInt64) :=
  [(.general64, s.general.toList), (.el1Of64, s.el1.toList), (.el2Of64, s.el2.toList)]

/-- Each kind of registers fits its context. -/
theorem length_le_of_mem_reported {c : ContextKind × List UInt64} (h : c ∈ s.reported) :
    c.2.length ≤ contextCapacity := by
  simp only [reported, List.mem_cons, List.not_mem_nil, or_false] at h
  rcases h with rfl | rfl | rfl <;> rw [Vector.length_toList] <;> decide

theorem readContexts_of_nonSecure (h : s.securityState = 1) :
    readMany readContext s.header.contextCount.toNat
      ((RegisterContext.layout.array sectionContextCount).encode s.contexts) =
        some (s.reported.map fun c => ⟨c.1.code, registerArea c.2⟩, []) := by
  have hs := isNonSecure_iff.2 h
  have hcount : s.header.contextCount = 3 := if_pos hs
  have hcontexts : s.contexts.toList = s.reported.map fun c => .ofRegisters c.1 c.2 :=
    congrArg Vector.toList (if_pos hs)
  have hread : ∀ c ∈ s.reported, ∀ rest,
      readContext (RegisterContext.layout.encode (.ofRegisters c.1 c.2) ++ rest) =
        some (⟨c.1.code, registerArea c.2⟩, rest) :=
    fun c hc => ProcessorReading.readContext_ofRegisters c.1 (length_le_of_mem_reported hc)
  have hread := ProcessorReading.readMany_flatMap hread []
  rw [List.append_nil] at hread
  rw [hcount, Layout.encode_array, hcontexts, List.flatMap_map]
  exact hread

/-- Contexts that are not counted are left, and they are zeros. -/
theorem readContexts_of_secure (h : s.securityState ≠ 1) :
    readMany readContext s.header.contextCount.toNat
      ((RegisterContext.layout.array sectionContextCount).encode s.contexts) =
        some ([], List.replicate 792 0) := by
  have hs := mt isNonSecure_iff.1 h
  have hcount : s.header.contextCount = 0 := if_neg hs
  have hcontexts : s.contexts = Vector.replicate sectionContextCount .zero := if_neg hs
  have hzeros : (RegisterContext.layout.array sectionContextCount).encode
      (Vector.replicate sectionContextCount .zero) = List.replicate 792 0 := by
    decide +kernel
  rw [hcount, hcontexts, hzeros]
  rfl

/-- What a reader finds in the section of a snapshot. -/
structure Found (s : ProcessorSnapshot) (r : ProcessorReading) : Prop where
  sectionLength : r.header.sectionLength.toNat = 864
  mpidr : r.header.mpidr = s.el1[6]
  midr : r.header.midr = s.el1[5]
  error : ∃ e, r.errors = [e] ∧ e.length.toNat = 32 ∧ e.physicalAddress = s.address
  /-- Of a processor in its non-secure state there are three contexts and nothing behind them. -/
  nonSecure : s.securityState = 1 → r.contexts = [⟨4, registerArea s.general.toList⟩,
    ⟨5, registerArea s.el1.toList⟩, ⟨6, registerArea s.el2.toList⟩] ∧ r.vendorData = []
  /-- Of any other processor there is no context, and zeros take their place. -/
  secure : s.securityState ≠ 1 → r.contexts = [] ∧ r.vendorData = List.replicate 792 0

/-- The section of a snapshot is read back, whatever follows it. -/
theorem ofBytes?_section (s : ProcessorSnapshot) :
    ∃ r, s.Found r ∧
      ∀ rest, ofBytes? (ProcessorSection.layout.encode s.toSection ++ rest) = some r := by
  have herror : ∃ e, [s.error] = [e] ∧ e.length.toNat = 32 ∧ e.physicalAddress = s.address :=
    ⟨s.error, rfl, rfl, rfl⟩
  by_cases h : s.securityState = 1
  · refine ⟨⟨s.header, [s.error], _, []⟩, ⟨rfl, rfl, rfl, herror, fun _ => ⟨rfl, rfl⟩,
      fun hs => (hs h).elim⟩, fun rest => ?_⟩
    rw [ofBytes?_append, readContexts_of_nonSecure h]
    rfl
  · refine ⟨⟨s.header, [s.error], [], List.replicate 792 0⟩, ⟨rfl, rfl, rfl, herror,
      fun hs => (h hs).elim, fun _ => ⟨rfl, rfl⟩⟩, fun rest => ?_⟩
    rw [ofBytes?_append, readContexts_of_secure h]
    rfl

end ProcessorSnapshot

/-- **A reader finds in a section what the snapshot tells.** The section of every snapshot can be
read by its counts and lengths alone, which add up to the length of the section: one error at the
address that failed, the registers that identify the processor, and of a processor in its non-secure
state its three contexts, whose registers are followed by zeros only; of any other processor there
are zeros in place of contexts. Two processors in their non-secure state whose sections are the same
failed at the same address with the same registers. -/
theorem processor_section_read :
    (∀ s : ProcessorSnapshot, ∃ r, s.Found r ∧
      ProcessorReading.ofBytes? (ProcessorSection.layout.encode s.toSection) = some r ∧
      (ProcessorSection.layout.encode s.toSection).length = r.header.sectionLength.toNat ∧
      r.errors.length = r.header.errorCount.toNat ∧
      r.contexts.length = r.header.contextCount.toNat ∧
      40 + (r.errors.map fun e => e.length.toNat).sum +
        (r.contexts.map fun c => 8 + c.registers.length).sum + r.vendorData.length =
          r.header.sectionLength.toNat) ∧
    ∀ s t : ProcessorSnapshot, s.securityState = 1 → t.securityState = 1 →
      ProcessorSection.layout.encode s.toSection = ProcessorSection.layout.encode t.toSection →
        s.address = t.address ∧ s.general = t.general ∧ s.el1 = t.el1 ∧ s.el2 = t.el2 := by
  constructor
  · intro s
    obtain ⟨r, hfound, hread⟩ := s.ofBytes?_section
    have hr := hread []
    rw [List.append_nil] at hr
    have hlength : (ProcessorSection.layout.encode s.toSection).length = 864 :=
      ProcessorSection.layout.length_encode _
    obtain ⟨herrors, hcontexts, hwalked, -⟩ := ProcessorReading.length_of_ofBytes? hr
    have hsection := hfound.sectionLength
    exact ⟨r, hfound, hr, by omega, herrors, hcontexts, by omega⟩
  · intro s t hs ht h
    obtain ⟨r, hfound, hread⟩ := s.ofBytes?_section
    obtain ⟨r', hfound', hread'⟩ := t.ofBytes?_section
    obtain rfl : r = r' := by
      have hr := hread []
      rw [h, hread'] at hr
      exact (Option.some.inj hr).symm
    obtain ⟨e, he, -, haddress⟩ := hfound.error
    obtain ⟨e', he', -, haddress'⟩ := hfound'.error
    obtain ⟨hcontexts, -⟩ := hfound.nonSecure hs
    obtain ⟨hcontexts', -⟩ := hfound'.nonSecure ht
    rw [he] at he'
    rw [hcontexts] at hcontexts'
    simp only [List.cons.injEq, ContextReading.mk.injEq, true_and, and_true] at he' hcontexts'
    obtain ⟨hgeneral, hel1, hel2⟩ := hcontexts'
    exact ⟨by rw [← haddress, he', haddress'], registerArea_injective hgeneral,
      registerArea_injective hel1, registerArea_injective hel2⟩

/-- The sample processor in its non-secure state is found to have contexts of all three kinds, and
what it holds for EL3 is not among them. -/
theorem processor_section_read_sample :
    (∃ r, (Sample.snapshot 1 5 4).Found r ∧ r.contexts.map ContextReading.kind = [4, 5, 6]) ∧
    (Sample.snapshot 1 5 4).el1 = (Sample.snapshot 1 5 8).el1 := by
  obtain ⟨hread, hequal⟩ := processor_section_read
  obtain ⟨r, hfound, -⟩ := hread (Sample.snapshot 1 5 4)
  obtain ⟨-, -, hel1, -⟩ := hequal (Sample.snapshot 1 5 4) (Sample.snapshot 1 5 8) rfl rfl rfl
  refine ⟨⟨r, hfound, ?_⟩, hel1⟩
  rw [(hfound.nonSecure rfl).1]
  rfl

end FirmwareFirst
