import FirmwareFirst.Proofs.Publication
import FirmwareFirst.Proofs.ReportHistory

/-!
# Lengths that are told

Four lengths are told in words of 32 bits: those of the data and of the section by the status block,
those of the largest section and of the block by the descriptor. No memory is refused because the
words are too short for its lengths, so they are told without their upper bits. `told_lengths` says
for which regions that never shows: those with lengths that are short enough, and those of which
nothing is told at all, since they cannot be prepared.
-/

namespace FirmwareFirst

/-! ## Lengths in the status block -/

namespace Region

variable {r r' : Region} {sectionType : Guid} {report : Report Bytes}

/-- The length of its data that the status block tells. -/
def dataLength (r : Region) : Nat :=
  (StatusHeader.layout.decode (r.memory.window 16 20)).dataLength.toNat

/-- The length of its section that the status block tells. -/
def sectionLength (r : Region) : Nat :=
  (DataEntry.layout.decode (r.memory.window 36 72)).dataLength.toNat

theorem dataLength_of_write (h : r.write sectionType report = some (.ok r')) :
    r'.dataLength = (72 + report.content.length) % 2 ^ 32 := by
  rw [dataLength, (holds_of_write h).2.header, Layout.decode_encode]
  exact UInt32.toNat_ofNat

theorem sectionLength_of_write (h : r.write sectionType report = some (.ok r')) :
    r'.sectionLength = report.content.length % 2 ^ 32 := by
  rw [sectionLength, (holds_of_write h).2.entry, Layout.decode_encode]
  exact UInt32.toNat_ofNat

end Region

/-! ## Lengths in the descriptor -/

namespace ErrorSource

variable {κ ρ σ : Type} {E : ErrorSource κ ρ σ} {m : State σ}

/-- The descriptor is handed out, in one of the ways there are. -/
inductive HandsOut (E : ErrorSource κ ρ σ) (m : State σ) : Descriptor → Prop where
  | answered {buffer : Option Bytes} {length count : Option Nat} {filled : Bytes}
      (h : (E.getDescriptors m buffer length count).2.result = some (.ok ()))
      (hfilled : (E.getDescriptors m buffer length count).2.buffer = some filled) :
      HandsOut E m (Descriptor.layout.decode (filled.take 92))
  | called {c : InterfaceCall} {filled : Bytes}
      (h : (E.callInterface m c).2.status = some .success)
      (hfilled : (E.callInterface m c).2.buffer = some (some filled)) :
      HandsOut E m (Descriptor.layout.decode (filled.take 92))
  | kept {d : Descriptor} (h : E.descriptor m = .ok d) : HandsOut E m d

theorem decode_announcement (E : ErrorSource κ ρ σ) (r : Region) (rest : Bytes) :
    Descriptor.layout.decode
      ((announcement E.config.sourceId E.config.event r.base r.maxSection ++ rest).take 92) =
        E.descriptorFor r := by
  rw [← E.encode_descriptorFor r, List.take_left' (E.length_encode_descriptorFor r),
    Layout.decode_encode]

/-- All that is handed out is the descriptor of the region. -/
theorem HandsOut.eq {d : Descriptor} (h : E.HandsOut m d) : d = E.descriptorFor m.region := by
  cases h with
  | answered h hfilled =>
    obtain ⟨b, -, -, hbuffer⟩ := buffer_of_getDescriptors h
    rw [hbuffer] at hfilled
    cases hfilled
    exact E.decode_announcement m.region _
  | called h hfilled =>
    obtain ⟨b, -, -, hbuffer⟩ := buffer_of_callInterface h
    rw [hbuffer] at hfilled
    cases hfilled
    exact E.decode_announcement m.region _
  | kept h =>
    have hbytes := encode_of_descriptor h
    rw [← E.encode_descriptorFor] at hbytes
    rw [← Descriptor.layout.decode_encode d, hbytes, Layout.decode_encode]

theorem HandsOut.rawDataLength {d : Descriptor} (h : E.HandsOut m d) :
    d.rawDataLength.toNat = m.region.maxSection % 2 ^ 32 := by
  rw [h.eq]
  exact UInt32.toNat_ofNat

theorem HandsOut.statusBlockLength {d : Descriptor} (h : E.HandsOut m d) :
    d.statusBlockLength.toNat = (92 + m.region.maxSection) % 2 ^ 32 := by
  have hblock : (E.descriptorFor m.region).statusBlockLength =
      UInt32.ofNat (92 + m.region.maxSection) :=
    ofNat32_wrapped _
  rw [h.eq, hblock]
  exact UInt32.toNat_ofNat

/-- Nothing is handed out of a region that cannot be prepared. -/
theorem HandsOut.ready {d : Descriptor} (h : E.HandsOut m d) :
    m.region.prepare.2.isSome = true := by
  cases h with
  | @answered buffer length count filled h hfilled =>
    rcases E.getDescriptors_cases m buffer length count with
      ⟨-, -, e, he, -⟩ | ⟨-, hready, -⟩ | ⟨-, -, heq⟩
    · rw [he] at h
      cases h
    · exact hready
    · rw [heq] at h
      cases h
  | @called c filled h hfilled =>
    rcases E.callInterface_cases m c with ⟨-, status, hs, hfail⟩ | ⟨-, hready, -⟩ |
      ⟨-, -, -, hnever⟩
    · rw [hs] at h
      exact (hfail (Option.some.inj h)).elim
    · exact hready
    · rw [hnever] at h
      cases h
  | @kept d h =>
    have hprepared := (descriptor_eq_ok_iff.1 ⟨d, h⟩).1
    rw [Region.prepare_of_prepared hprepared]
    rfl

/-- A caller with a buffer gets the descriptor of a region that nobody uses and that can be
prepared. -/
theorem handsOut_of_free (E : ErrorSource κ ρ σ) (hfree : m.hold = .free)
    (hready : m.region.prepare.2.isSome = true) : ∃ d, E.HandsOut m d := by
  have hgiven : ∀ b, some (List.replicate 92 (0 : UInt8)) = some b →
      descriptorsLength ≤ b.length := by
    rintro b ⟨⟩
    decide
  have hasked := E.getDescriptors_asked m (some 0) (some 0) hgiven
  generalize hresult : (E.getDescriptors m (some (List.replicate 92 0)) (some 0) (some 0)).2.result
    = result at hasked
  cases hasked with
  | missing h => simp at h
  | probe hl hc hb => cases hb
  | inUse hl hc hb hm => exact (hm hfree).elim
  | never hl hc hb hm hstuck => exact (hstuck (Region.prepare_returns_iff.1 hready)).elim
  | done =>
    obtain ⟨b, -, -, hbuffer⟩ := buffer_of_getDescriptors hresult
    exact ⟨_, .answered hresult hbuffer⟩

end ErrorSource

/-! ## Lengths that are exact -/

namespace Region

/-- All lengths that are told of the region, once it is prepared, are what they should be. -/
structure LengthsExact (r : Region) : Prop where
  data : ∀ sectionType report r', r.prepare.1.write sectionType report = some (.ok r') →
    r'.dataLength = 72 + report.content.length
  content : ∀ sectionType report r', r.prepare.1.write sectionType report = some (.ok r') →
    r'.sectionLength = report.content.length
  raw : ∀ {κ ρ σ : Type} (E : ErrorSource κ ρ σ) (m : State σ) d, m.region = r →
    E.HandsOut m d → d.rawDataLength.toNat = r.maxSection
  block : ∀ {κ ρ σ : Type} (E : ErrorSource κ ρ σ) (m : State σ) d, m.region = r →
    E.HandsOut m d → d.statusBlockLength.toNat = 92 + r.maxSection

variable {r : Region}

/-- Memory that is large enough is accepted, however large the lengths are. -/
theorem ofReserved_of_fits (physical : UInt64 → UInt8) {base : UInt64} {size maxSection : Nat}
    (hlayout : Addressable maxSection) (hbase : base ≠ 0) (hfits : 116 + maxSection ≤ size) :
    ∃ r, ofReserved physical base size maxSection = .ok r ∧ r.maxSection = maxSection := by
  have hrequired : requiredSize maxSection ≤ size := by rwa [hlayout.requiredSize_eq]
  rw [ofReserved, if_neg hbase, dif_pos hrequired]
  exact ⟨_, rfl, rfl⟩

theorem lengthsExact_of_lt (h : 92 + r.maxSection < 2 ^ 32) : r.LengthsExact := by
  have hroom : ∀ {sectionType report r'}, r.prepare.1.write sectionType report = some (.ok r') →
      report.content.length ≤ r.maxSection := by
    intro sectionType report r' hwrite
    rw [← r.maxSection_prepare]
    exact (write_eq_ok_iff.1 hwrite).2.1
  constructor
  case data =>
    intro sectionType report r' hwrite
    have hlength := hroom hwrite
    rw [dataLength_of_write hwrite, Nat.mod_eq_of_lt (by omega)]
  case content =>
    intro sectionType report r' hwrite
    have hlength := hroom hwrite
    rw [sectionLength_of_write hwrite, Nat.mod_eq_of_lt (by omega)]
  case raw =>
    rintro κ ρ σ E m d rfl hd
    rw [hd.rawDataLength, Nat.mod_eq_of_lt (by omega)]
  case block =>
    rintro κ ρ σ E m d rfl hd
    rw [hd.statusBlockLength, Nat.mod_eq_of_lt h]

/-- Nothing is told of a region that cannot be prepared, and so nothing wrong. -/
theorem lengthsExact_of_stuck (h : r.prepare.2 = none) : r.LengthsExact := by
  obtain ⟨hprepared, -, hclear⟩ := prepare_of_stuck h
  have hunwritten : ∀ {sectionType report r'},
      r.prepare.1.write sectionType report ≠ some (.ok r') := by
    intro sectionType report r' hwrite
    have hp := (write_eq_ok_iff.1 hwrite).1
    rw [hclear] at hp
    cases hprepared.symm.trans hp
  have huntold : ∀ {κ ρ σ : Type} {E : ErrorSource κ ρ σ} {m : State σ} {d : Descriptor},
      m.region = r → ¬ E.HandsOut m d := by
    rintro κ ρ σ E m d rfl hd
    have hready := hd.ready
    rw [h] at hready
    cases hready
  exact ⟨fun _ _ _ hwrite => (hunwritten hwrite).elim, fun _ _ _ hwrite => (hunwritten hwrite).elim,
    fun _ _ _ hm hd => (huntold hm hd).elim, fun _ _ _ hm hd => (huntold hm hd).elim⟩

/-- Of the four lengths, that of the block is the first one to be told wrong. -/
theorem LengthsExact.lt (h : r.LengthsExact) (hready : r.prepare.2.isSome = true) :
    92 + r.maxSection < 2 ^ 32 := by
  obtain ⟨d, hd⟩ := Sample.scenario.source.handsOut_of_free
    (rfl : (State.mk r .free 0 false ⟨false, false⟩ Sample.platform).hold = .free) hready
  have hexact := h.block Sample.scenario.source _ d rfl hd
  rw [hd.statusBlockLength] at hexact
  exact hexact ▸ Nat.mod_lt _ (by decide)

theorem lengthsExact_iff : r.LengthsExact ↔ 92 + r.maxSection < 2 ^ 32 ∨ r.prepare.2 = none := by
  constructor
  · intro h
    cases hready : r.prepare.2 with
    | none => exact .inr rfl
    | some messages => exact .inl (h.lt (Option.isSome_of_eq_some hready))
  · rintro (h | h)
    · exact lengthsExact_of_lt h
    · exact lengthsExact_of_stuck h

end Region

/-- **What the lengths that are told come to.** For every report that is written into a prepared
region, and for every descriptor that is handed out, in whichever way, each of the four lengths is
told without what exceeds 32 bits. All of them are exact if and only if that of the largest block
has no more, or if none is ever told since the region cannot be prepared. So it is in every memory
that is shorter than 2^32 + 24 bytes, if all lengths of the region can be counted; and then it can
be prepared. -/
theorem told_lengths (r : Region) :
    (∀ sectionType report r', r.prepare.1.write sectionType report = some (.ok r') →
      r'.dataLength = (72 + report.content.length) % 2 ^ 32 ∧
      r'.sectionLength = report.content.length % 2 ^ 32) ∧
    (∀ {κ ρ σ : Type} (E : ErrorSource κ ρ σ) (m : State σ) d, m.region = r → E.HandsOut m d →
      d.rawDataLength.toNat = r.maxSection % 2 ^ 32 ∧
      d.statusBlockLength.toNat = (92 + r.maxSection) % 2 ^ 32) ∧
    (r.LengthsExact ↔ 92 + r.maxSection < 2 ^ 32 ∨ r.prepare.2 = none) ∧
    (Addressable r.maxSection →
      r.prepare.2.isSome = true ∧ (r.size < 2 ^ 32 + 24 → r.LengthsExact)) := by
  refine ⟨?_, ?_, Region.lengthsExact_iff, fun hlayout => ?_⟩
  · intro sectionType report r' hwrite
    exact ⟨Region.dataLength_of_write hwrite, Region.sectionLength_of_write hwrite⟩
  · rintro κ ρ σ E m d rfl hd
    exact ⟨hd.rawDataLength, hd.statusBlockLength⟩
  · have hl := r.length_memory hlayout
    refine ⟨Region.prepare_returns_iff.2 (.inr (by omega)), fun hsize => ?_⟩
    rw [Region.size] at hsize
    exact Region.lengthsExact_of_lt (by omega)

/-- Sections of four gigabytes are accepted by a region that is large enough for them, and all four
lengths are told wrong: the block tells of one without a section, and so does the descriptor. -/
theorem told_lengths_not_always_exact :
    ∃ r, Region.ofReserved (fun _ => 0) 0x100000000 0x100000074 0x100000000 = .ok r ∧
      ¬ r.LengthsExact ∧
      (∃ report r', report.content.length = 0x100000000 ∧
        r.prepare.1.write descriptorProtocol report = some (.ok r') ∧
        r'.dataLength = 72 ∧ r'.sectionLength = 0) ∧
      ∀ {κ ρ σ : Type} (E : ErrorSource κ ρ σ) (m : State σ) d, m.region = r → E.HandsOut m d →
        d.rawDataLength.toNat = 0 ∧ d.statusBlockLength.toNat = 92 := by
  obtain ⟨r, hr, hmax⟩ := Region.ofReserved_of_fits (fun _ => 0)
    (by decide : Addressable 0x100000000) (by decide : (0x100000000 : UInt64) ≠ 0)
    (by decide : 116 + 0x100000000 ≤ 0x100000074)
  obtain ⟨report, hcontent⟩ : ∃ report : Report Bytes, report.content.length = 0x100000000 :=
    ⟨Sample.reportOf (List.replicate 0x100000000 0), List.length_replicate⟩
  have hl := r.length_memory (by rw [hmax]; decide)
  have hready := Region.prepare_returns_iff.2 (.inr (by omega : 16 ≤ r.memory.length))
  obtain ⟨r', hwrite⟩ : ∃ r', r.prepare.1.write descriptorProtocol report = some (.ok r') := by
    refine ⟨_, Region.write_eq_ok_iff.2 ⟨Region.prepared_prepare hready, ?_, ?_, rfl⟩⟩
    · rw [hcontent, r.maxSection_prepare, hmax]
    · rw [hcontent, r.length_memory_prepare]
      omega
  refine ⟨r, hr, fun hexact => ?_, ⟨report, r', hcontent, hwrite, ?_, ?_⟩, ?_⟩
  · have hlt := hexact.lt hready
    rw [hmax] at hlt
    exact absurd hlt (by decide)
  · rw [Region.dataLength_of_write hwrite, hcontent]
    rfl
  · rw [Region.sectionLength_of_write hwrite, hcontent]
    rfl
  · rintro κ ρ σ E m d rfl hd
    rw [hd.rawDataLength, hd.statusBlockLength, hmax]
    decide

end FirmwareFirst
