import FirmwareFirst.Proofs.Reader

/-!
# Reports one after another

A report fills the start of the status block and as much of what is behind it as its section takes,
so the end of a longer section stays there behind a shorter one. `Region.Keeps` says what that comes
to: header and entry are those of the last report, and each byte behind them is that of the last
section which reached it.
-/

namespace FirmwareFirst
namespace Region

/-! ## Requests to a region -/

/-- What a region can be asked for. -/
inductive Request
  | prepare
  | publish (sectionType : Guid) (report : Report Bytes)

/-- The report that a request is about, and the type of its section. -/
def Request.report? : Request → Option (Guid × Report Bytes)
  | prepare => none
  | publish sectionType report => some (sectionType, report)

/-- The region after a request, and what comes of it, if anything. -/
def serve (r : Region) : Request → Region × Option (Except CallError Unit)
  | .prepare => (r.prepare.1, r.prepare.2.map fun _ => .ok ())
  | .publish sectionType report =>
    let (r, answer) := r.publish sectionType report
    (r, answer.map fun a => a.2)

/-- The report that is accepted with a request, if any. -/
def accepted? (r : Region) (q : Request) : Option (Guid × Report Bytes) :=
  match (r.serve q).2 with
  | some (.ok ()) => q.report?
  | _ => none

/-- The region after some requests in order, and the reports that were accepted. -/
def serveAll (r : Region) : List Request → Region × List (Guid × Report Bytes)
  | [] => (r, [])
  | q :: rest =>
    (((r.serve q).1.serveAll rest).1,
      (r.accepted? q).toList ++ ((r.serve q).1.serveAll rest).2)

variable {r r₀ : Region} {sectionType : Guid} {report : Report Bytes}

theorem serve_prepare (h : r.prepared = true) : r.serve .prepare = (r, some (.ok ())) := by
  rw [serve, prepare_of_prepared h]
  rfl

theorem serve_publish_of_fits (h : r.prepared = true)
    (hfits : report.content.length ≤ r.maxSection)
    (hroom : 108 + report.content.length ≤ r.memory.length) :
    r.serve (.publish sectionType report) =
      (r.store 16 (blockOf sectionType report), some (.ok ())) := by
  have hw : r.write sectionType report = some (.ok (r.store 16 (blockOf sectionType report))) :=
    write_eq_ok_iff.2 ⟨h, hfits, hroom, rfl⟩
  rw [serve, publish, hw]
  rfl

theorem serve_publish_of_too_large (h : r.prepared = true)
    (hlarge : r.maxSection < report.content.length) :
    r.serve (.publish sectionType report) = (r, some (.error .sectionTooLarge)) := by
  have hw : r.write sectionType report = some (.error .sectionTooLarge) := by
    rw [write, if_neg (by simp [h]), if_pos hlarge]
  rw [serve, publish, hw]
  rfl

/-- A report is accepted if its section fits. -/
theorem accepted?_eq (h : r.prepared = true) (hroom : 116 + r.maxSection ≤ r.memory.length)
    (q : Request) :
    r.accepted? q = q.report?.filter fun p => decide (p.2.content.length ≤ r.maxSection) := by
  cases q with
  | prepare => simp [accepted?, serve_prepare h, Request.report?]
  | publish sectionType report =>
    by_cases hfits : report.content.length ≤ r.maxSection
    · simp [accepted?, serve_publish_of_fits h hfits (by omega), Request.report?, Option.filter,
        hfits]
    · have hlarge : r.maxSection < report.content.length := by omega
      simp [accepted?, serve_publish_of_too_large h hlarge, Request.report?, Option.filter, hfits]

/-! ## Bytes of sections -/

/-- Byte `i` of the last section that is longer than `i`, or zero. -/
def lastByte (i : Nat) (reports : List (Guid × Report Bytes)) : UInt8 :=
  ((reports.filterMap fun p => p.2.content[i]?).getLast?).getD 0

theorem lastByte_concat (i : Nat) (reports : List (Guid × Report Bytes))
    (p : Guid × Report Bytes) :
    lastByte i (reports ++ [p]) = (p.2.content[i]?).getD (lastByte i reports) := by
  rw [lastByte, List.filterMap_append]
  cases hbyte : p.2.content[i]? with
  | none => simp [hbyte, lastByte]
  | some b => simp [hbyte]

theorem getElem?_blockOf (sectionType : Guid) (report : Report Bytes) (i : Nat) :
    (blockOf sectionType report)[92 + i]? = report.content[i]? := by
  have hlead : (StatusHeader.layout.encode (headerOf report) ++
      DataEntry.layout.encode (entryOf sectionType report)).length = 92 := by
    rw [List.length_append, Layout.length_encode, Layout.length_encode, statusHeader_size,
      dataEntry_size]
  rw [blockOf, List.getElem?_append_right (by omega), hlead, Nat.add_sub_cancel_left]

/-! ## What is kept -/

/-- The region is what the region `r₀`, prepared just now, becomes when it accepts some reports in
order. -/
structure Keeps (r₀ : Region) (reports : List (Guid × Report Bytes)) (r : Region) : Prop where
  prepared : r.prepared = true
  maxSection : r.maxSection = r₀.maxSection
  length : r.memory.length = r₀.memory.length
  /-- There is room for all zones. -/
  room : 116 + r.maxSection ≤ r.memory.length
  /-- Without a report there are zeros where a header and an entry would be. -/
  blank : reports = [] → r.memory.window 16 92 = List.replicate 92 0
  /-- The last report is there, and all of its section. -/
  last : ∀ p, reports.getLast? = some p → r.Holds p.1 p.2
  content : ∀ i, i < r₀.maxSection → r.memory[108 + i]? = some (lastByte i reports)
  rest : ∀ i, i < 16 ∨ 108 + r₀.maxSection ≤ i → r.memory[i]? = r₀.memory[i]?

namespace Keeps

variable {reports : List (Guid × Report Bytes)}

theorem start (h : r.prepared = false) (hroom : 116 + r.maxSection ≤ r.memory.length) :
    r.prepare.1.Keeps [] r.prepare.1 := by
  have hready := prepare_returns_iff.2 (.inr (by omega : 16 ≤ r.memory.length))
  refine ⟨prepared_prepare hready, rfl, rfl, by simpa using hroom, fun _ => ?_, by simp,
    fun i hi => ?_, fun i hi => rfl⟩
  · apply List.ext_getElem?
    intro i
    rw [Bytes.getElem?_window, List.getElem?_replicate]
    by_cases hi : i < 92
    · rw [if_pos hi, if_pos hi]
      exact getElem?_prepare h (by omega) (by omega)
    · rw [if_neg hi, if_neg hi]
  · rw [maxSection_prepare] at hi
    exact getElem?_prepare h (by omega) (by omega)

/-- A report that is accepted becomes the last one. Of the bytes behind the entry it changes those
that its section reaches, and no others. -/
theorem store (h : r₀.Keeps reports r) (hfits : report.content.length ≤ r.maxSection) :
    r₀.Keeps (reports ++ [(sectionType, report)]) (r.store 16 (blockOf sectionType report)) := by
  have hroom := h.room
  have hblock := length_blockOf sectionType report
  have hmax := h.maxSection
  have hlength : (r.store 16 (blockOf sectionType report)).memory.length = r.memory.length :=
    Bytes.length_overwrite ..
  have hwrite : r.write sectionType report =
      some (.ok (r.store 16 (blockOf sectionType report))) :=
    write_eq_ok_iff.2 ⟨h.prepared, hfits, by omega, rfl⟩
  refine ⟨h.prepared, h.maxSection, hlength.trans h.length, by rw [hlength]; exact hroom, by simp,
    ?_, ?_, ?_⟩
  · intro p hp
    rw [List.getLast?_concat] at hp
    cases hp
    exact (holds_of_write hwrite).2
  · intro i hi
    rw [getElem?_store r (by omega), lastByte_concat]
    by_cases hreach : i < report.content.length
    · have hbyte : report.content[i]? = some report.content[i] := List.getElem?_eq_getElem hreach
      rw [if_pos (by omega), show 108 + i - 16 = 92 + i by omega, getElem?_blockOf]
      simp [hbyte]
    · have hnone : report.content[i]? = none := List.getElem?_eq_none (by omega)
      rw [if_neg (by omega), h.content i hi]
      simp [hnone]
  · intro i hi
    rw [getElem?_store r (by omega), if_neg (by omega)]
    exact h.rest i hi

/-- A request adds the report that is accepted with it. -/
theorem serve (h : r₀.Keeps reports r) (q : Request) :
    r₀.Keeps (reports ++ (r.accepted? q).toList) (r.serve q).1 := by
  have hroom := h.room
  cases q with
  | prepare =>
    rw [serve_prepare h.prepared]
    simpa [accepted?_eq h.prepared hroom, Request.report?] using h
  | publish sectionType report =>
    by_cases hfits : report.content.length ≤ r.maxSection
    · rw [serve_publish_of_fits h.prepared hfits (by omega)]
      simpa [accepted?_eq h.prepared hroom, Request.report?, Option.filter, hfits] using
        h.store hfits
    · rw [serve_publish_of_too_large h.prepared (by omega)]
      simpa [accepted?_eq h.prepared hroom, Request.report?, Option.filter, hfits] using h

/-- **What a region keeps of some requests.** -/
theorem serveAll (h : r₀.Keeps reports r) (requests : List Request) :
    r₀.Keeps (reports ++ (r.serveAll requests).2) (r.serveAll requests).1 := by
  -- What was accepted before the first request is any list, since it grows with each of them.
  induction requests generalizing r reports with
  | nil =>
    rw [Region.serveAll, List.append_nil]
    exact h
  | cons q rest ih =>
    rw [Region.serveAll, ← List.append_assoc]
    exact ih (h.serve q)

/-- The reports that are accepted are those with sections that fit. -/
theorem accepted_eq (h : r₀.Keeps reports r) (requests : List Request) :
    (r.serveAll requests).2 = requests.filterMap fun q =>
      q.report?.filter fun p => decide (p.2.content.length ≤ r₀.maxSection) := by
  induction requests generalizing r reports with
  | nil => rfl
  | cons q rest ih =>
    rw [Region.serveAll, ih (h.serve q), accepted?_eq h.prepared h.room, h.maxSection,
      List.filterMap_cons]
    cases q.report?.filter fun p => decide (p.2.content.length ≤ r₀.maxSection) <;> rfl

end Keeps

/-! ## What is found in the status block -/

/-- The status block starts with the header and the entry of a report, which give its lengths
exactly, and what the entry gives as its section is the section. -/
structure Displays (r : Region) (sectionType : Guid) (report : Report Bytes) : Prop where
  header : ∃ length : UInt32, length.toNat = 72 + report.content.length ∧
    r.memory.window 16 20 = StatusHeader.layout.encode
      (.ofSingleEntry report.summary.blockStatus length report.summary.severity)
  entry : ∃ length : UInt32, length.toNat = report.content.length ∧
    r.memory.window 36 72 = DataEntry.layout.encode
      (.ofSection sectionType report.summary.severity report.summary.flags length)
  content : r.memory.window 108
    (DataEntry.layout.decode (r.memory.window 36 72)).dataLength.toNat = report.content

/-- What is read from a block that is held is read from the block of its report. -/
theorem Holds.window (h : r.Holds sectionType report) {first count : Nat}
    (hc : first + count ≤ 92 + report.content.length) :
    r.memory.window (16 + first) count = (blockOf sectionType report).window first count := by
  rw [← h.2, Bytes.window_window _ _ hc]

theorem Holds.header (h : r.Holds sectionType report) :
    r.memory.window 16 20 = StatusHeader.layout.encode (headerOf report) :=
  (h.window (by omega : 0 + 20 ≤ 92 + report.content.length)).trans header_of_blockOf

theorem Holds.entry (h : r.Holds sectionType report) :
    r.memory.window 36 72 = DataEntry.layout.encode (entryOf sectionType report) :=
  (h.window (by omega : 20 + 72 ≤ 92 + report.content.length)).trans entry_of_blockOf

theorem Holds.displays (h : r.Holds sectionType report) (hsize : r.memory.length < 2 ^ 32) :
    r.Displays sectionType report := by
  have hroom := h.room
  have hlength : (entryOf sectionType report).dataLength.toNat = report.content.length :=
    UInt32.toNat_ofNat_of_lt' (by omega : report.content.length < 2 ^ 32)
  refine ⟨⟨_, ?_, h.header⟩, ⟨_, hlength, h.entry⟩, ?_⟩
  · exact UInt32.toNat_ofNat_of_lt' (by rw [dataEntry_size]; omega : _ < 2 ^ 32)
  · rw [h.entry, Layout.decode_encode, hlength]
    exact (h.window (Nat.le_refl _)).trans content_of_blockOf

/-- **What a region holds after any requests.** Let a region that has room for all its zones and is
smaller than four gigabytes be prepared and then asked for anything in any order. Whatever it was
asked for so far, a report is accepted if and only if its section fits, and else nothing changes;
preparing it again changes nothing either. The status block starts with the header and the entry of
the last report that was accepted, and with zeros if there was none; each byte behind them is that
of the last accepted section which is long enough to have it, or zero; and all else is as it was
when the region was prepared. So the section that the entry tells of is always the last one, and all
of it. -/
theorem contents_of_requests {after : Region} {requests : List Request}
    {accepted : List (Guid × Report Bytes)} (hnew : r.prepared = false)
    (hroom : 116 + r.maxSection ≤ r.memory.length) (hsize : r.memory.length < 2 ^ 32)
    (hserve : r.prepare.1.serveAll requests = (after, accepted)) :
    (∀ sectionType report,
      ((after.serve (.publish sectionType report)).2 = some (.ok ()) ↔
        report.content.length ≤ r.maxSection) ∧
      (r.maxSection < report.content.length →
        after.serve (.publish sectionType report) = (after, some (.error .sectionTooLarge)))) ∧
    after.serve .prepare = (after, some (.ok ())) ∧
    (accepted = requests.filterMap fun q =>
      q.report?.filter fun p => decide (p.2.content.length ≤ r.maxSection)) ∧
    (accepted = [] → after.memory.window 16 92 = List.replicate 92 0) ∧
    (∀ sectionType report, accepted.getLast? = some (sectionType, report) →
      after.Displays sectionType report) ∧
    (∀ i, i < r.maxSection → after.memory[108 + i]? = some (lastByte i accepted)) ∧
    ∀ i, i < 16 ∨ 108 + r.maxSection ≤ i → after.memory[i]? = r.prepare.1.memory[i]? := by
  have hstart : r.prepare.1.Keeps [] r.prepare.1 := .start hnew hroom
  have hkeeps := hstart.serveAll requests
  have haccepted := hstart.accepted_eq requests
  rw [hserve] at hkeeps haccepted
  rw [maxSection_prepare] at haccepted
  have hprepared : after.prepared = true := hkeeps.prepared
  have hmax : after.maxSection = r.maxSection := by rw [hkeeps.maxSection, maxSection_prepare]
  have hlength : after.memory.length < 2 ^ 32 := by
    rw [hkeeps.length, length_memory_prepare]
    exact hsize
  refine ⟨fun sectionType report => ⟨⟨?_, ?_⟩, ?_⟩, serve_prepare hprepared, haccepted,
    hkeeps.blank, ?_, ?_, ?_⟩
  · intro hok
    by_contra hlarge
    rw [serve_publish_of_too_large hprepared (by omega)] at hok
    cases hok
  · intro hfits
    have hafter : 116 + after.maxSection ≤ after.memory.length := hkeeps.room
    rw [serve_publish_of_fits hprepared (by omega) (by omega)]
  · intro hlarge
    exact serve_publish_of_too_large hprepared (by omega)
  · intro sectionType report hlast
    exact (hkeeps.last _ hlast).displays hlength
  · intro i hi
    exact hkeeps.content i (by rwa [maxSection_prepare])
  · intro i hi
    exact hkeeps.rest i (by rwa [maxSection_prepare])

end Region

namespace Sample

/-- A report that tells nothing but its section. -/
def reportOf (content : Bytes) : Report Bytes := ⟨⟨.corrected, .empty, 0⟩, content⟩

/-- Sections of four bytes, of one, of five, for which there is no room, and of two. -/
def requests : List Region.Request :=
  [.publish descriptorProtocol (reportOf [1, 2, 3, 4]), .publish descriptorProtocol (reportOf [5]),
    .publish descriptorProtocol (reportOf [6, 6, 6, 6, 6]), .prepare,
    .publish descriptorProtocol (reportOf [7, 8])]

end Sample

/-- In the sample region the last two bytes of the first section are left behind the last one. -/
theorem Region.contents_of_requests_sample :
    (Sample.region.prepare.1.serveAll Sample.requests).2.length = 3 ∧
    (Sample.region.prepare.1.serveAll Sample.requests).1.Displays descriptorProtocol
      (Sample.reportOf [7, 8]) ∧
    (Sample.region.prepare.1.serveAll Sample.requests).1.memory[108 + 2]? = some 3 ∧
    ((Sample.region.prepare.1.serveAll Sample.requests).1.serve
      (.publish descriptorProtocol (Sample.reportOf [6, 6, 6, 6, 6]))).2 =
        some (.error .sectionTooLarge) := by
  have hroom : 116 + Sample.region.maxSection ≤ Sample.region.memory.length := by decide +kernel
  have hsize : Sample.region.memory.length < 2 ^ 32 := by decide +kernel
  have hlast : (Sample.region.prepare.1.serveAll Sample.requests).2.getLast? =
      some (descriptorProtocol, Sample.reportOf [7, 8]) := by
    decide +kernel
  have hbyte : lastByte 2 (Sample.region.prepare.1.serveAll Sample.requests).2 = 3 := by
    decide +kernel
  obtain ⟨hanswer, -, haccepted, -, hdisplays, hcontent, -⟩ :=
    Region.contents_of_requests rfl hroom hsize
      (Prod.eta (Sample.region.prepare.1.serveAll Sample.requests)).symm
  refine ⟨?_, hdisplays _ _ hlast, ?_, ?_⟩
  · rw [haccepted]
    rfl
  · have hthird := hcontent 2 (by decide : 2 < 4)
    rwa [hbyte] at hthird
  · rw [(hanswer descriptorProtocol (Sample.reportOf [6, 6, 6, 6, 6])).2 (by decide : 4 < 5)]

end FirmwareFirst
