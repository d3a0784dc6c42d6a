import FirmwareFirst.Proofs.Reader
import FirmwareFirst.Source.Ram

/-!
# No error bit is lost or reported twice

The status registers of the RAM error source clear the bits that are written to them as ones, and
hardware sets bits in them at any moment. `Ledger` is the account of a piece of a run: the bits that
arrived, and the records that were read. It balances for every register and every bit, since a
capture writes back the very status that it reports, and what arrives meanwhile stays. It is made up
once no event is being handled any more (`EventsOver`).
-/

namespace FirmwareFirst

open Outcome (traces)

/-! ## Bits -/

/-- Bit `i` of a word, as a number. -/
def bitAt (v : UInt32) (i : Nat) : Nat :=
  (v.toBitVec.getLsbD i).toNat

theorem bitAt_le_one (v : UInt32) (i : Nat) : bitAt v i ≤ 1 :=
  Bool.toNat_le _

/-- A bit is set once it was set or has arrived. -/
theorem bitAt_arrive (v bits : UInt32) (i : Nat) :
    bitAt v i + bitAt (bits &&& ~~~v) i = bitAt (v ||| bits) i := by
  simp only [bitAt, UInt32.toBitVec_and, UInt32.toBitVec_or, UInt32.toBitVec_not,
    BitVec.getLsbD_and, BitVec.getLsbD_or, BitVec.getLsbD_not]
  by_cases hi : i < 32
  · cases v.toBitVec.getLsbD i <;> cases bits.toBitVec.getLsbD i <;> simp [hi]
  · simp [BitVec.getLsbD_of_ge _ i (by omega : 32 ≤ i)]

/-- A write clears those bits that it writes as ones. -/
theorem bitAt_clear {v written : UInt32} {i : Nat} (h : bitAt written i ≤ bitAt v i) :
    bitAt written i + bitAt (v &&& ~~~written) i = bitAt v i := by
  simp only [bitAt, UInt32.toBitVec_and, UInt32.toBitVec_not, BitVec.getLsbD_and,
    BitVec.getLsbD_not] at h ⊢
  by_cases hi : i < 32
  · revert h
    cases v.toBitVec.getLsbD i <;> cases written.toBitVec.getLsbD i <;> simp [hi]
  · simp [BitVec.getLsbD_of_ge _ i (by omega : 32 ≤ i)]

/-- Bit `i` of the register at `address`. -/
def Platform.bit (p : Platform) (address : UInt64) (i : Nat) : Nat :=
  bitAt (p.bank.value address) i

/-- How often hardware has set bit `i` of the register at `address`. -/
def arrivalsOf (arrivals : List (UInt64 × UInt32)) (address : UInt64) (i : Nat) : Nat :=
  arrivals.countP fun a => a.1 = address ∧ bitAt a.2 i = 1

/-- How many of the records, given with the starts of their banks, have bit `i` of the status
register at `address`. -/
def recordsOf (format : RamFormat) (records : List (UInt64 × RamRecord)) (address : UInt64)
    (i : Nat) : Nat :=
  records.countP fun r => r.1 + format.statusOffset = address ∧ bitAt r.2.status i = 1

theorem arrivalsOf_append (a b : List (UInt64 × UInt32)) (address : UInt64) (i : Nat) :
    arrivalsOf (a ++ b) address i = arrivalsOf a address i + arrivalsOf b address i :=
  List.countP_append

theorem recordsOf_append (format : RamFormat) (a b : List (UInt64 × RamRecord)) (address : UInt64)
    (i : Nat) :
    recordsOf format (a ++ b) address i =
      recordsOf format a address i + recordsOf format b address i :=
  List.countP_append

theorem arrivalsOf_singleton (a : UInt64) (bits : UInt32) (address : UInt64) (i : Nat) :
    arrivalsOf [(a, bits)] address i = if a = address then bitAt bits i else 0 := by
  have h := bitAt_le_one bits i
  by_cases ha : a = address
  · by_cases hb : bitAt bits i = 1
    · simp [arrivalsOf, ha, hb]
    · simp [arrivalsOf, ha, hb]
      omega
  · simp [arrivalsOf, ha]

theorem recordsOf_singleton (format : RamFormat) (base : UInt64) (record : RamRecord)
    (address : UInt64) (i : Nat) :
    recordsOf format [(base, record)] address i =
      if base + format.statusOffset = address then bitAt record.status i else 0 := by
  have h := bitAt_le_one record.status i
  by_cases ha : base + format.statusOffset = address
  · by_cases hb : bitAt record.status i = 1
    · simp [recordsOf, ha, hb]
    · simp [recordsOf, ha, hb]
      omega
  · simp [recordsOf, ha]

/-- Hardware sets bits. -/
theorem Platform.bit_raise (p : Platform) (a : UInt64) (bits : UInt32) (address : UInt64)
    (i : Nat) :
    p.bit address i + arrivalsOf [(a, bits &&& ~~~p.bank.value a)] address i =
      (p.raise a bits).bit address i := by
  rw [arrivalsOf_singleton]
  by_cases ha : a = address
  · subst ha
    simp only [bit, raise, RegisterBank.set, if_true]
    exact bitAt_arrive _ _ _
  · have ha' : ¬ address = a := fun h => ha h.symm
    simp [bit, raise, RegisterBank.set, ha, ha']

/-- A status is written back to its register. -/
theorem Platform.bit_store {p : Platform} (heffect : p.bank.effect = .clearOnes) {a : UInt64}
    {status : UInt32} {i : Nat} (hstatus : bitAt status i ≤ p.bit a i) (address : UInt64) :
    (if a = address then bitAt status i else 0) + (p.store .bank a status).bit address i =
      p.bit address i := by
  by_cases ha : a = address
  · subst ha
    simp only [bit, store, RegisterBank.write, RegisterBank.set, heffect, WriteEffect.apply,
      if_true]
    exact bitAt_clear hstatus
  · have ha' : ¬ address = a := fun h => ha h.symm
    simp [bit, store, RegisterBank.write, RegisterBank.set, ha, ha']

/-! ## Events and records -/

/-- Registers are given new values. -/
def Outside.setsRegisters : Outside → Bool
  | setRegisters _ => true
  | _ => false

/-- Hardware does nothing to registers but to set bits in them. -/
def Steady (t : List Outcome) : Prop :=
  ∀ e ∈ t.filterMap Outcome.outside?, e.setsRegisters = false

instance (t : List Outcome) : Decidable (Steady t) :=
  inferInstanceAs (Decidable (∀ e ∈ _, _))

theorem steady_append {s t : List Outcome} : Steady (s ++ t) ↔ Steady s ∧ Steady t := by
  simp only [Steady, List.filterMap_append, List.forall_mem_append]

/-- All calls that handle events have returned. -/
def EventsOver (t : List Outcome) : Prop :=
  ∀ o ∈ t, o.step.event?.isSome = true → o.returns = true

instance (t : List Outcome) : Decidable (EventsOver t) :=
  inferInstanceAs (Decidable (∀ o ∈ t, _))

theorem eventsOver_append {s t : List Outcome} :
    EventsOver (s ++ t) ↔ EventsOver s ∧ EventsOver t :=
  List.forall_mem_append

/-- An event was handled to the end. -/
def Answer.isHandled : Answer → Bool
  | event ⟨some (.ok ()), _⟩ => true
  | handler a => a.status = some .success
  | _ => false

namespace Answer

theorem isHandled_of_fruitless {a : Answer} (h : a.Fruitless) : a.isHandled = false := by
  cases a with
  | event a =>
    obtain ⟨result, size⟩ := a
    obtain ⟨e, rfl⟩ : ∃ e, result = some (.error e) := h
    rfl
  | handler a =>
    obtain ⟨status, hs, hfail⟩ := h
    exact decide_eq_false (by rw [hs]; simpa using hfail)
  | _ => rfl

theorem isHandled_of_stuck {a : Answer} (h : a.Stuck) : a.isHandled = false := by
  cases a <;> first | rfl | cases h

theorem isHandled_of_gives_none {a : Answer} (h : a.Gives none) : a.isHandled = false := by
  cases a with
  | event a =>
    obtain ⟨result, size⟩ := a
    obtain rfl : result = none := h
    rfl
  | handler a => exact decide_eq_false (by rw [show a.status = none from h]; simp)
  | _ => cases h

theorem isHandled_of_gives {a : Answer} (h : a.Gives (some (.ok ()))) : a.isHandled = true := by
  cases a with
  | event a =>
    obtain ⟨result, size⟩ := a
    obtain rfl : result = some (.ok ()) := h
    rfl
  | handler a => exact decide_eq_true h
  | _ => cases h

end Answer

theorem Outcome.isHandled_of_publishes {o : Outcome} (h : o.publishes = true) :
    o.answer.isHandled = false := by
  obtain ⟨s, a, inside, after⟩ := o
  cases a <;> first | rfl | cases h

/-- The start of the bank that an event names. -/
def RamConfig.bankOf (config : RamConfig) (event : Bytes) : UInt64 :=
  config.base (RamEvent.layout.decode event).isNonSecure

theorem RamConfig.bankOf_take (config : RamConfig) (b : Bytes) :
    config.bankOf (b.take RamEvent.layout.size) = config.bankOf b := by
  have ht : (b.take RamEvent.layout.size).take 8 = b.take 8 := by
    rw [List.take_take]
    rfl
  exact congrArg (fun bs => config.base
    (RamEvent.isNonSecure ⟨UInt64.ofNat (LittleEndian.decode bs)⟩)) ht

/-- The start of the bank that was named by an event that was handled to the end. -/
def Outcome.bank? (config : RamConfig) : Outcome → Option UInt64
  | mk s a _ _ => if a.isHandled then (s.event?.bind Prod.fst).map config.bankOf else none

/-- An event that was not handled to the end names no bank. -/
theorem Outcome.bank?_of_not_handled (config : RamConfig) {o : Outcome}
    (h : o.answer.isHandled = false) : o.bank? config = none := by
  obtain ⟨s, a, inside, after⟩ := o
  have ha : a.isHandled = false := h
  rw [bank?, ha, if_neg Bool.false_ne_true]

theorem Outcome.bank?_of_fruitless (config : RamConfig) {o : Outcome} (h : o.answer.Fruitless) :
    o.bank? config = none :=
  bank?_of_not_handled config (Answer.isHandled_of_fruitless h)

/-- The accesses by which a record is read from the bank at `r.1` and cleared. -/
def recordAccesses (format : RamFormat) (r : UInt64 × RamRecord) : List Access :=
  [.read (r.1 + format.statusOffset) r.2.status, .read (r.1 + format.codeOffset) r.2.code,
    .read (r.1 + format.addressOffset) r.2.address,
    .write (r.1 + format.statusOffset) r.2.status]

/-- The report of a record. -/
def RamConfig.reportOf (config : RamConfig) (r : UInt64 × RamRecord) : Report Bytes :=
  (r.2.report config.format).map MemorySection.layout.encode

/-! ## The account -/

/-- Between the states `m` and `n`, these bits arrived and these records were read. -/
structure Ledger {σ : Type} (format : RamFormat) (m : State σ) (arrivals : List (UInt64 × UInt32))
    (records : List (UInt64 × RamRecord)) (n : State σ) : Prop where
  effect : n.platform.bank.effect = m.platform.bank.effect
  room : n.region.maxSection = m.region.maxSection
  arrived : n.platform.arrivals = m.platform.arrivals ++ arrivals
  accessed : n.platform.accesses = m.platform.accesses ++ records.flatMap (recordAccesses format)
  balance : ∀ address i, m.platform.bit address i + arrivalsOf arrivals address i =
    recordsOf format records address i + n.platform.bit address i

namespace Ledger

variable {σ : Type} {format : RamFormat} {m n k : State σ}
  {arrivals arrivals' : List (UInt64 × UInt32)} {records records' : List (UInt64 × RamRecord)}

/-- Nothing happens on the platform but that messages are logged. -/
theorem idle (hroom : n.region.maxSection = m.region.maxSection)
    (hn : ∃ messages, n.platform = m.platform.say messages) : Ledger format m [] [] n := by
  obtain ⟨messages, hn⟩ := hn
  refine ⟨?_, hroom, ?_, ?_, fun address i => ?_⟩ <;> rw [hn]
  · rfl
  · exact (List.append_nil _).symm
  · exact (List.append_nil _).symm
  · simp [arrivalsOf, recordsOf, Platform.bit, Platform.say]

theorem trans (h : Ledger format m arrivals records n) (h' : Ledger format n arrivals' records' k) :
    Ledger format m (arrivals ++ arrivals') (records ++ records') k := by
  refine ⟨h'.effect.trans h.effect, h'.room.trans h.room, ?_, ?_, ?_⟩
  · rw [h'.arrived, h.arrived, List.append_assoc]
  · rw [h'.accessed, h.accessed, List.flatMap_append, List.append_assoc]
  · intro address i
    have h1 := h.balance address i
    have h2 := h'.balance address i
    rw [arrivalsOf_append, recordsOf_append]
    omega

/-- Something happens outside of the error source. -/
theorem outside {e : Outside} (he : e.setsRegisters = false) :
    ∃ arrivals, Ledger format m arrivals [] (m.outside e) := by
  cases e with
  | writeMemory offset data => exact ⟨[], idle rfl ⟨[], (Platform.say_nil _).symm⟩⟩
  | setRegisters values => cases he
  | raiseBits address bits =>
    refine ⟨[(address, bits &&& ~~~m.platform.bank.value address)], rfl, rfl, rfl,
      (List.append_nil _).symm, fun a i => ?_⟩
    simp only [recordsOf, List.countP_nil, Nat.zero_add]
    exact m.platform.bit_raise address bits a i
  | writeDevice offset data =>
    exact ⟨[], rfl, rfl, (List.append_nil _).symm, (List.append_nil _).symm, fun a i => by
      simp [arrivalsOf, recordsOf, Platform.bit, State.outside]⟩

/-- Without records, bits are only set. -/
theorem bit_add (h : Ledger format m arrivals [] n) (address : UInt64) (i : Nat) :
    m.platform.bit address i + arrivalsOf arrivals address i = n.platform.bit address i := by
  have hb := h.balance address i
  simpa only [recordsOf, List.countP_nil, Nat.zero_add] using hb

end Ledger

/-! ## Pieces of a run -/

namespace Scenario

variable {σ : Type} {S : Scenario σ} {capture : Capturing σ} {config : RamConfig}

/-- Every event that `capture` is given is captured, and its record goes to the account. -/
def Accounts (capture : Capturing σ) (config : RamConfig) : Prop :=
  ∀ (event : Bytes) (m : State σ), event.length = RamEvent.layout.size →
    m.platform.bank.effect = .clearOnes → Steady (traces (capture event m.lock).2.2) →
    ∃ arrivals record,
      (capture event m.lock).2.1 = .ok (config.reportOf (config.bankOf event, record)) ∧
      Ledger config.format m.lock arrivals [(config.bankOf event, record)] (capture event m.lock).1

/-- Events can be handled in the state `m`, and `capture` accounts for them. -/
structure Ready (S : Scenario σ) (capture : Capturing σ) (config : RamConfig) (m : State σ) :
    Prop where
  accounts : Accounts capture config
  keeps : Discreet S capture
  eventSize : S.source.source.eventSize = RamEvent.layout.size
  effect : m.platform.bank.effect = .clearOnes
  room : MemorySection.layout.size ≤ m.region.maxSection

theorem Ready.next {m n : State σ} (h : S.Ready capture config m)
    {arrivals : List (UInt64 × UInt32)} {records : List (UInt64 × RamRecord)}
    (hl : Ledger config.format m arrivals records n) : S.Ready capture config n :=
  ⟨h.accounts, h.keeps, h.eventSize, hl.effect.trans h.effect, by rw [hl.room]; exact h.room⟩

theorem bank?_of_publishes (config : RamConfig) {o : Outcome} (h : o.publishes = true) :
    o.bank? config = none :=
  Outcome.bank?_of_not_handled config (Outcome.isHandled_of_publishes h)

theorem bank?_of_gives (config : RamConfig) {s : Step} {a : Answer} {inside : List Outcome}
    {after : Except CallError Region} {b : Bytes} {size : Option Nat}
    (hs : s.event? = some (some b, size)) (ha : a.Gives (some (.ok ()))) :
    (Outcome.mk s a inside after).bank? config = some (config.bankOf b) := by
  rw [Outcome.bank?, if_pos (Answer.isHandled_of_gives ha), hs]
  rfl

/-- A step that holds no other steps, while the region is in use or while events can be handled. If
it handles an event, the call returns. -/
theorem ledger_single {m m' : State σ} {s : Step} {a : Answer} {inside : List Outcome}
    (hm : m.hold ≠ .free ∨ S.Ready capture config m) (hs : s.isSingle = true)
    (heq : S.stepWith capture s m = (m', a, inside))
    (hsteady : Steady (traces inside ++ [Outcome.mk s a inside m'.view]))
    (hover : EventsOver (traces inside ++ [Outcome.mk s a inside m'.view])) :
    ∃ arrivals records, Ledger config.format m arrivals records m' ∧
      records.map Prod.fst =
        (traces inside ++ [Outcome.mk s a inside m'.view]).filterMap (Outcome.bank? config) ∧
      (S.captured? capture m s).toList = records.map config.reportOf := by
  obtain ⟨hinside, hlast⟩ := steady_append.1 hsteady
  cases effect_of_eq hs heq with
  | idle messages hne hr ha =>
    refine ⟨[], [], .idle rfl ⟨messages, rfl⟩, ?_, by rw [hr]; rfl⟩
    have hb := Outcome.bank?_of_fruitless config (o := .mk s a [] (m.say messages).view) ha
    simp [hb]
  | published messages hfree hready hne hr hp hd =>
    refine ⟨[], [], .idle m.region.maxSection_prepare ⟨messages, rfl⟩, ?_, by rw [hr]; rfl⟩
    have hb := bank?_of_publishes config (hp
      (({ m with region := m.region.prepare.1 } : State σ).say messages).view)
    simp [hb]
  | stuck hfree hstuck hne hr ha =>
    refine ⟨[], [], .idle m.region.maxSection_prepare ⟨[], (Platform.say_nil _).symm⟩, ?_,
      by rw [hr]; rfl⟩
    have hb : ∀ after, (Outcome.mk s a [] after).bank? config = none :=
      fun _ => Outcome.bank?_of_not_handled config (Answer.isHandled_of_stuck ha)
    simp [hb]
  | outside e he =>
    subst he
    have hquiet : e.setsRegisters = false := hlast e (by simp [Outcome.outside?])
    obtain ⟨arrivals, hl⟩ : ∃ arrivals, Ledger config.format m arrivals [] (m.outside e) :=
      Ledger.outside hquiet
    exact ⟨arrivals, [], hl, by simp [Outcome.bank?, Answer.isHandled], rfl⟩
  | @handled _ _ buffer size event captured m' outcome _ result messages he haccept hcap hr hpub
      ha =>
    obtain ⟨b, n, rfl, -, -, hb, hfree, hprep, -, rfl⟩ := S.source.accept_eq_ok_iff.1 haccept
    have hready := hm.resolve_left (not_not.2 hfree)
    have hlen : (b.take S.source.source.eventSize).length = RamEvent.layout.size := by
      rw [List.length_take_of_le hb, hready.eventSize]
    have hbank : config.bankOf (b.take S.source.source.eventSize) = config.bankOf b := by
      rw [hready.eventSize]
      exact config.bankOf_take b
    obtain ⟨arrivals, record, hok, hl⟩ :=
      hready.accounts _ m hlen hready.effect (by rw [hcap]; exact hinside)
    have hkept := hready.keeps.kept hcap
    rw [hcap] at hok hl
    rw [hbank] at hok hl
    subst hok
    -- The section fits, and the call returns, so that the report is published.
    have hreturns := hover _ (List.mem_append_right _ List.mem_cons_self)
      (by simp [Outcome.step, he])
    rw [Outcome.returns_of_gives ha] at hreturns
    have hlength : (config.reportOf (config.bankOf b, record)).content.length =
        MemorySection.layout.size := MemorySection.layout.length_encode _
    have hcprep := hready.keeps.prepared haccept hcap
    have hroom : MemorySection.layout.size ≤ captured.region.maxSection := by
      rw [hl.room]
      exact hready.room
    obtain ⟨r, hw, hm', rfl⟩ :=
      S.source.publish_of_answered hcprep (hlength.trans_le hroom) hreturns hpub
    refine ⟨arrivals, [(config.bankOf b, record)], ?_, ?_, by rw [hr]; rfl⟩
    · have hr : r.maxSection = captured.region.maxSection := by
        obtain ⟨-, -, -, rfl⟩ := Region.write_eq_ok_iff.1 hw
        rfl
      have hfirst : Ledger config.format m [] [] m.lock := .idle rfl ⟨[], (Platform.say_nil _).symm⟩
      have hlast : Ledger config.format captured [] [] (m'.unlock.say messages) := by
        subst hm'
        exact .idle hr ⟨_, Platform.say_say captured.platform _ messages⟩
      have hall := hfirst.trans (hl.trans hlast)
      rw [List.append_nil] at hall
      exact hall
    · have hnone : (traces inside).filterMap (Outcome.bank? config) = [] := by
        rw [List.filterMap_eq_nil_iff]
        intro o ho
        exact Outcome.bank?_of_fruitless config (hkept.fruitless o ho)
      rw [List.filterMap_append, hnone, List.nil_append,
        List.filterMap_cons_some (bank?_of_gives config he ha), List.filterMap_nil]
      rfl

/-- Every stretch balances, in which the region is in use or events can be handled. -/
theorem Stretch.ledger {m n : State σ} {t : List Outcome} (h : S.Stretch capture m t n)
    (hm : m.hold ≠ .free ∨ S.Ready capture config m) (hsteady : Steady t)
    (hover : EventsOver t) :
    ∃ arrivals records, Ledger config.format m arrivals records n ∧
      records.map Prod.fst = t.filterMap (Outcome.bank? config) := by
  induction h with
  | stay => exact ⟨[], [], .idle rfl ⟨[], (Platform.say_nil _).symm⟩, rfl⟩
  | @join m n k s t first rest ihf ihr =>
    obtain ⟨hf, hr⟩ := steady_append.1 hsteady
    obtain ⟨hfover, hrover⟩ := eventsOver_append.1 hover
    obtain ⟨arrivals, records, hl, hb⟩ := ihf hm hf hfover
    have hn : n.hold ≠ .free ∨ S.Ready capture config n :=
      hm.imp first.held fun hready => hready.next hl
    obtain ⟨arrivals', records', hl', hb'⟩ := ihr hn hr hrover
    exact ⟨_, _, hl.trans hl', by rw [List.map_append, hb, hb', List.filterMap_append]⟩
  | say m messages => exact ⟨[], [], .idle rfl ⟨messages, rfl⟩, rfl⟩
  | core => exact ⟨[], [], .idle rfl ⟨[], (Platform.say_nil _).symm⟩, rfl⟩
  | single hs heq =>
    obtain ⟨arrivals, records, hl, hb, -⟩ := ledger_single hm hs heq hsteady hover
    exact ⟨arrivals, records, hl, hb⟩
  | region hshare happen hn ih =>
    subst hn
    obtain ⟨arrivals, records, hl, hb⟩ :=
      ih (.inl (Hold.ne_free_of_share? hshare)) (steady_append.1 hsteady).1
        (eventsOver_append.1 hover).1
    refine ⟨arrivals, records, ⟨hl.effect, hl.room, hl.arrived, hl.accessed, hl.balance⟩, ?_⟩
    rw [hb, List.filterMap_append]
    simp [Outcome.bank?, Answer.isHandled]
  | refused =>
    refine ⟨[], [], .idle rfl ⟨[], (Platform.say_nil _).symm⟩, ?_⟩
    simp [Outcome.bank?, Answer.isHandled]
  | installed =>
    refine ⟨[], [], .idle rfl ⟨[], (Platform.say_nil _).symm⟩, ?_⟩
    simp [Outcome.bank?, Answer.isHandled]

/-- While the region is in use, no record is read. -/
theorem Stretch.ledger_of_held {m n : State σ} {t : List Outcome} (h : S.Stretch capture m t n)
    (hm : m.hold ≠ .free) (hsteady : Steady t) (config : RamConfig) :
    ∃ arrivals, Ledger config.format m arrivals [] n := by
  obtain ⟨arrivals, records, hl, hb⟩ : ∃ arrivals records,
      Ledger config.format m arrivals records n ∧
        records.map Prod.fst = t.filterMap (Outcome.bank? config) :=
    h.ledger (.inl hm) hsteady fun o ho _ => (h.hold_of_held hm).2.2 o ho
  have hnone : t.filterMap (Outcome.bank? config) = [] := by
    rw [List.filterMap_eq_nil_iff]
    intro o ho
    exact Outcome.bank?_of_fruitless config (h.calm hm o ho).fruitless
  rw [hnone, List.map_eq_nil_iff] at hb
  subst hb
  exact ⟨arrivals, hl⟩

/-! ## A capture -/

/-- Before an access to the bank, bits may be set. -/
theorem interrupt_ledger (S : Scenario σ) (nested : Capturing σ) {m : State σ}
    (hm : m.hold ≠ .free) (hsteady : Steady (traces (S.interrupt nested m .bank).2))
    (config : RamConfig) :
    (S.interrupt nested m .bank).1.hold ≠ .free ∧
      ∃ arrivals, Ledger config.format m arrivals [] (S.interrupt nested m .bank).1 := by
  have h : S.Stretch nested m (traces (S.interrupt nested m .bank).2)
      (S.interrupt nested m .bank).1 :=
    stepsWith_stretch S nested m _
  exact ⟨h.held hm, h.ledger_of_held hm hsteady config⟩

/-- A register is read once the bits are set that come before. -/
theorem perform_load {S : Scenario σ} {nested : Capturing σ} {address : UInt64}
    {next : UInt32 → Capture Step Answer σ} {m : State σ}
    (hsteady : Steady (traces (S.perform nested (.load .bank address next) m).2.2))
    (hm : m.hold ≠ .free) (config : RamConfig) :
    ∃ arrivals n, n.hold ≠ .free ∧ Ledger config.format m arrivals [] n ∧
      ∃ t, S.perform nested (.load .bank address next) m =
        ((S.perform nested (next (n.platform.bank.value address))
            { n with platform := n.platform.load .bank address }).1,
          (S.perform nested (next (n.platform.bank.value address))
            { n with platform := n.platform.load .bank address }).2.1, t) ∧
        Steady (traces (S.perform nested (next (n.platform.bank.value address))
          { n with platform := n.platform.load .bank address }).2.2) := by
  rw [perform, Outcome.traces_append, steady_append] at hsteady
  obtain ⟨hhold, arrivals, hl⟩ := S.interrupt_ledger nested hm hsteady.1 config
  exact ⟨arrivals, _, hhold, hl, (S.perform nested (.load .bank address next) m).2.2, rfl,
    hsteady.2⟩

/-- A register is written once the bits are set that come before. -/
theorem perform_store {S : Scenario σ} {nested : Capturing σ} {address : UInt64} {value : UInt32}
    {next : Capture Step Answer σ} {m : State σ}
    (hsteady : Steady (traces (S.perform nested (.store .bank address value next) m).2.2))
    (hm : m.hold ≠ .free) (config : RamConfig) :
    ∃ arrivals n, n.hold ≠ .free ∧ Ledger config.format m arrivals [] n ∧
      ∃ t, S.perform nested (.store .bank address value next) m =
        ((S.perform nested next { n with platform := n.platform.store .bank address value }).1,
          (S.perform nested next { n with platform := n.platform.store .bank address value }).2.1,
          t) := by
  rw [perform, Outcome.traces_append, steady_append] at hsteady
  obtain ⟨hhold, arrivals, hl⟩ := S.interrupt_ledger nested hm hsteady.1 config
  exact ⟨arrivals, _, hhold, hl, (S.perform nested (.store .bank address value next) m).2.2, rfl⟩

/-- **A capture reports what it clears.** -/
theorem perform_captureRam (S : Scenario Unit) (nested : Capturing Unit) (config : RamConfig)
    {event : Bytes} (hevent : event.length = RamEvent.layout.size) {m : State Unit}
    (hm : m.hold ≠ .free) (heffect : m.platform.bank.effect = .clearOnes)
    (hsteady : Steady (traces (S.perform nested (captureRam .bank config event) m).2.2)) :
    ∃ arrivals record,
      (S.perform nested (captureRam .bank config event) m).2.1 =
        .ok (config.reportOf (config.bankOf event, record)) ∧
      Ledger config.format m arrivals [(config.bankOf event, record)]
        (S.perform nested (captureRam .bank config event) m).1 := by
  rw [captureRam, RamEvent.layout.read_front (Nat.le_of_eq hevent.symm)] at hsteady ⊢
  simp only [] at hsteady ⊢
  obtain ⟨arrivals₁, m₁, hm₁, hl₁, t₁, hp₁, hsteady⟩ := perform_load hsteady hm config
  obtain ⟨arrivals₂, m₂, hm₂, hl₂, t₂, hp₂, hsteady⟩ := perform_load hsteady hm₁ config
  obtain ⟨arrivals₃, m₃, hm₃, hl₃, t₃, hp₃, hsteady⟩ := perform_load hsteady hm₂ config
  obtain ⟨arrivals₄, m₄, hm₄, hl₄, t₄, hp₄⟩ := perform_store hsteady hm₃ config
  rw [hp₁, hp₂, hp₃, hp₄]
  refine ⟨arrivals₁ ++ arrivals₂ ++ arrivals₃ ++ arrivals₄, ⟨_, _, _⟩, rfl, ?_⟩
  have heffect₄ : m₄.platform.bank.effect = m.platform.bank.effect :=
    hl₄.effect.trans (hl₃.effect.trans (hl₂.effect.trans hl₁.effect))
  refine ⟨heffect₄, hl₄.room.trans (hl₃.room.trans (hl₂.room.trans hl₁.room)), ?_, ?_,
    fun address i => ?_⟩
  · have h₁ := hl₁.arrived
    have h₂ : m₂.platform.arrivals = m₁.platform.arrivals ++ arrivals₂ := hl₂.arrived
    have h₃ : m₃.platform.arrivals = m₂.platform.arrivals ++ arrivals₃ := hl₃.arrived
    have h₄ : m₄.platform.arrivals = m₃.platform.arrivals ++ arrivals₄ := hl₄.arrived
    refine h₄.trans ?_
    simp only [h₃, h₂, h₁, List.append_assoc]
  · have h₁ := hl₁.accessed
    have h₂ := hl₂.accessed
    have h₃ := hl₃.accessed
    have h₄ := hl₄.accessed
    simp only [List.flatMap_nil, List.append_nil, Platform.load, Platform.record] at h₁ h₂ h₃ h₄
    simp only [perform, State.say, Platform.say, Platform.store, Platform.record, h₄, h₃, h₂, h₁,
      List.append_assoc]
    rfl
  · -- The status is what the register held at `m₁`, and bits were only set between then and `m₄`.
    have h₁ := hl₁.bit_add
    have h₂ : ∀ a i, m₁.platform.bit a i + arrivalsOf arrivals₂ a i = m₂.platform.bit a i :=
      hl₂.bit_add
    have h₃ : ∀ a i, m₂.platform.bit a i + arrivalsOf arrivals₃ a i = m₃.platform.bit a i :=
      hl₃.bit_add
    have h₄ : ∀ a i, m₃.platform.bit a i + arrivalsOf arrivals₄ a i = m₄.platform.bit a i :=
      hl₄.bit_add
    have hstatus : m₁.platform.bit (config.bankOf event + config.format.statusOffset) i ≤
        m₄.platform.bit (config.bankOf event + config.format.statusOffset) i := by
      rw [← h₄, ← h₃, ← h₂]
      omega
    have hstore := Platform.bit_store (heffect₄.trans heffect) hstatus address
    rw [recordsOf_singleton, arrivalsOf_append, arrivalsOf_append, arrivalsOf_append]
    have hadd : m.platform.bit address i + (arrivalsOf arrivals₁ address i +
        arrivalsOf arrivals₂ address i + arrivalsOf arrivals₃ address i +
        arrivalsOf arrivals₄ address i) = m₄.platform.bit address i := by
      rw [← h₄, ← h₃, ← h₂, ← h₁]
      omega
    rw [hadd]
    exact hstore.symm

theorem capture_of_ram {S : Scenario Unit} {config : RamConfig}
    (hsource : S.source.source = ramSource .bank config) (event : Bytes) (m : State Unit) :
    S.capture event m = S.perform noCapture (captureRam .bank config event) m := by
  rw [capture, hsource]
  rfl

theorem capture_accounts (S : Scenario Unit) {config : RamConfig}
    (hsource : S.source.source = ramSource .bank config) : Accounts S.capture config := by
  intro event m hevent heffect hsteady
  rw [capture_of_ram hsource] at hsteady ⊢
  exact S.perform_captureRam noCapture config hevent (by simp [State.lock]) heffect hsteady

/-! ## Runs -/

/-- Every step balances, and the report that is captured in it is that of its record. -/
theorem step_ledger {m : State σ} (hready : S.Ready S.capture config m) (s : Step)
    (hsteady : Steady (S.step s m).2.trace) (hover : EventsOver (S.step s m).2.trace) :
    ∃ arrivals records, Ledger config.format m arrivals records (S.step s m).1 ∧
      records.map Prod.fst = (S.step s m).2.trace.filterMap (Outcome.bank? config) ∧
      (s.isInstall = false →
        (S.captured? S.capture m s).toList = records.map config.reportOf) := by
  cases s with
  | install replies onRegister onInstall onUnregister =>
    obtain ⟨arrivals, records, hl, hb⟩ := (S.step_stretch _ m).ledger (.inr hready) hsteady hover
    exact ⟨arrivals, records, hl, hb, fun h => by cases h⟩
  | withRegion steps =>
    obtain ⟨arrivals, records, hl, hb⟩ := (S.step_stretch _ m).ledger (.inr hready) hsteady hover
    have hnone := List.filterMap_eq_nil_iff.2 fun o ho =>
      Outcome.bank?_of_fruitless config ((S.withRegion_quiet steps m).2 o ho)
    have hrecords : records = [] := by
      rw [hnone] at hb
      exact List.map_eq_nil_iff.1 hb
    exact ⟨arrivals, records, hl, hb, fun _ => by rw [hrecords]; rfl⟩
  | _ =>
    rw [trace_step] at hsteady hover ⊢
    obtain ⟨arrivals, records, hl, hb, hr⟩ := ledger_single (.inr hready) rfl rfl hsteady hover
    exact ⟨arrivals, records, hl, hb, fun _ => hr⟩

/-- Every run balances. -/
theorem run_ledger {m : State σ} (hready : S.Ready S.capture config m) {steps : List Step}
    (hsteady : Steady (traces (S.run steps m).2)) (hover : EventsOver (traces (S.run steps m).2)) :
    ∃ arrivals records, Ledger config.format m arrivals records (S.run steps m).1 ∧
      records.map Prod.fst = (traces (S.run steps m).2).filterMap (Outcome.bank? config) ∧
      ((∀ s ∈ steps, s.isInstall = false) →
        S.captures steps m = records.map config.reportOf) := by
  induction steps generalizing m with
  | nil => exact ⟨[], [], .idle rfl ⟨[], (Platform.say_nil _).symm⟩, rfl, fun _ => rfl⟩
  | cons s rest ih =>
    rw [run_cons, Outcome.traces_cons] at hsteady hover ⊢
    obtain ⟨hfirst, hrest⟩ := steady_append.1 hsteady
    obtain ⟨hfirstOver, hrestOver⟩ := eventsOver_append.1 hover
    obtain ⟨arrivals, records, hl, hb, hr⟩ := step_ledger hready s hfirst hfirstOver
    obtain ⟨arrivals', records', hl', hb', hr'⟩ := ih (hready.next hl) hrest hrestOver
    refine ⟨_, _, hl.trans hl', ?_, ?_⟩
    · rw [List.map_append, hb, hb', List.filterMap_append]
    · intro hsteps
      rw [List.forall_mem_cons] at hsteps
      rw [captures, hr hsteps.1, hr' hsteps.2, List.map_append]

/-- **No error bit is lost or reported twice.** Let the RAM error source start with registers that
clear the bits that are written to them as ones, and let nobody but the hardware and the source
change them. In every run at whose end no event is being handled, a record is read for each event
that is handled to the end, from the bank that the event names and by four accesses, and no other
access is made; each report that is captured is that of its record. At the end, every bit of every
register was there at the start or arrived as often as it is in one of the records or is still
there. Where all lengths can be counted, this is every run. -/
theorem no_bit_lost (S : Scenario Unit) {config : RamConfig}
    (hsource : S.source.source = ramSource .bank config) {region : Region} {platform : Platform}
    (heffect : platform.bank.effect = .clearOnes) {m : State Unit}
    (hstart : S.source.start region platform = .ok m) {steps : List Step}
    (hsteady : Steady (traces (S.run steps m).2)) :
    (Addressable region.maxSection → EventsOver (traces (S.run steps m).2)) ∧
    (EventsOver (traces (S.run steps m).2) → ∃ arrivals records,
      (S.run steps m).1.platform.arrivals = platform.arrivals ++ arrivals ∧
      (S.run steps m).1.platform.accesses =
        platform.accesses ++ records.flatMap (recordAccesses config.format) ∧
      records.map Prod.fst = (traces (S.run steps m).2).filterMap (Outcome.bank? config) ∧
      ((∀ s ∈ steps, s.isInstall = false) → S.captures steps m = records.map config.reportOf) ∧
      ∀ address i, platform.bit address i + arrivalsOf arrivals address i =
        recordsOf config.format records address i +
          (S.run steps m).1.platform.bit address i) := by
  obtain ⟨hmax, rfl, rfl, -⟩ := ErrorSource.of_start hstart
  have hstretch : S.Stretch S.capture m (traces (S.run steps m).2) (S.run steps m).1 :=
    stepsWith_stretch S S.capture m steps
  refine ⟨fun hlayout o ho _ => hstretch.returns_of_addressable S.capture_discreet hlayout o ho,
    fun hover => ?_⟩
  have hready : S.Ready S.capture config m := by
    refine ⟨S.capture_accounts hsource, S.capture_discreet, by rw [hsource]; rfl, heffect, ?_⟩
    rw [hsource] at hmax
    exact hmax
  obtain ⟨arrivals, records, hl, hb, hr⟩ := run_ledger hready hsteady hover
  exact ⟨arrivals, records, hl.arrived, hl.accessed, hb, hr, hl.balance⟩

end Scenario

namespace Sample

/-- Two banks, whose status register is their fifth. -/
def ramConfig : RamConfig :=
  ⟨0x3000, 0x2000, ⟨0x10, 0x14, 0x18, 1, 2, 0, 3, 1, 2⟩⟩

/-- A RAM error source. Before its second access to the registers, another bit is set. -/
def ramScenario : Scenario Unit where
  source := ⟨⟨7, 0x80, descriptorProtocol, 0x1000, 200⟩, ramSource .bank ramConfig⟩
  interrupts n := if n = 1 then [.outside (.raiseBits 0x2010 4)] else []

def ramRegion : Region :=
  ⟨0x1000, List.replicate 200 0, 80, false, by rw [List.length_replicate]; decide⟩

def ramStart : State Unit :=
  ⟨ramRegion, .free, (), false, ⟨false, false⟩, platform⟩

/-- Two bits are set, and an event is sent. -/
def ramSteps : List Step :=
  [.getDescriptors (some (List.replicate 92 0)) (some 92) (some 1),
    .outside (.raiseBits 0x2010 3), .handleEvent (some [1, 0, 0, 0, 0, 0, 0, 0]) (some 8)]

end Sample

/-- In the sample run the bit that is set while the event is captured is still there at the end. -/
theorem no_bit_lost_sample :
    ∃ arrivals records, records.map Prod.fst = [0x2000] ∧ (∀ i,
      arrivalsOf arrivals 0x2010 i = recordsOf Sample.ramConfig.format records 0x2010 i +
        bitAt 4 i) := by
  have hsteady : Steady (traces (Sample.ramScenario.run Sample.ramSteps Sample.ramStart).2) := by
    decide +kernel
  have hstart : Sample.ramScenario.source.start Sample.ramRegion Sample.platform =
      .ok Sample.ramStart := rfl
  have hbanks : (traces (Sample.ramScenario.run Sample.ramSteps Sample.ramStart).2).filterMap
      (Outcome.bank? Sample.ramConfig) = [0x2000] := by
    decide +kernel
  have hlast : (Sample.ramScenario.run Sample.ramSteps
      Sample.ramStart).1.platform.bank.value 0x2010 = 4 := by
    decide +kernel
  obtain ⟨hover, h⟩ := Sample.ramScenario.no_bit_lost rfl rfl hstart hsteady
  obtain ⟨arrivals, records, -, -, hb, -, hbalance⟩ := h (hover (by decide))
  refine ⟨arrivals, records, by rw [hb, hbanks], fun i => ?_⟩
  have h := hbalance 0x2010 i
  rw [Platform.bit, Platform.bit, hlast] at h
  have hzero : bitAt (Sample.platform.bank.value 0x2010) i = 0 := by
    simp [Sample.platform, bitAt]
  omega

end FirmwareFirst
