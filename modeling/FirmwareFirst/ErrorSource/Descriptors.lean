import FirmwareFirst.ErrorSource.State
import FirmwareFirst.Record.Descriptor

/-!
# Publishing the descriptor

The operating system learns of an error source through its descriptor. `getDescriptors` answers how
much room the descriptor takes and, given that room, prepares the region and hands the descriptor
out; only then are events accepted. `callInterface` is the same call as the firmware core makes it,
with pointers that may be null.
-/

namespace FirmwareFirst

/-- How many descriptors an error source hands out. -/
def descriptorCount : Nat := 1

/-- The room they take. -/
def descriptorsLength : Nat := descriptorCount * Descriptor.layout.size

/-- What the interface of an error source is installed under. -/
def descriptorProtocol : Guid :=
  Guid.ofGroups 0x560bf236 0xa4a8 0x4d69 #v[0xbc, 0xf6, 0xc2, 0x97, 0x24, 0x10, 0x9d, 0x91]

/-- The outcome of asking for descriptors, if the call returns, and what the caller's variables hold
afterwards. -/
structure DescriptorsAnswer where
  result : Option (Except CallError Unit)
  length : Option Nat
  count : Option Nat
  buffer : Option Bytes

/-- A call of the interface. -/
structure InterfaceCall where
  /-- The pointer to the interface is null. -/
  nullInterface : Bool
  /-- The caller's buffer behind two pointers, either of which may be null. -/
  buffer : Option (Option Bytes)
  length : Option Nat
  count : Option Nat

/-- The status of a call of the interface, if it returns, and what the caller's variables hold
afterwards. -/
structure InterfaceAnswer where
  status : Option Status
  length : Option Nat
  count : Option Nat
  buffer : Option (Option Bytes)

namespace ErrorSource

variable {κ ρ σ : Type}

/-- The descriptor of an error source that publishes into `region`. -/
def descriptorFor (E : ErrorSource κ ρ σ) (region : Region) : Descriptor where
  kind := Descriptor.genericSourceKind
  sourceId := E.config.sourceId
  relatedSourceId := Descriptor.noRelatedSource
  flags := 0
  enabled := 1
  recordsToPreallocate := 1
  sectionsPerRecord := 1
  rawDataLength := UInt32.ofNat region.maxSection
  statusAddress := .inMemory (region.address .statusRegister)
  notification := .delegated E.config.event
  statusBlockLength := UInt32.ofNat region.blockLength
  ackRegister := .inMemory (region.address .ackRegister)
  ackPreserve := 0
  ackWrite := 0

/-- Hands out the descriptors. Length and count are answered even when the buffer will not do. -/
def getDescriptors (E : ErrorSource κ ρ σ) (m : State σ) (buffer : Option Bytes)
    (length count : Option Nat) : State σ × DescriptorsAnswer :=
  match length, count with
  | some _, some _ =>
    let answer (result : Option (Except CallError Unit)) (buffer : Option Bytes) :
        DescriptorsAnswer :=
      ⟨result, some descriptorsLength, some descriptorCount, buffer⟩
    match buffer with
    | none => (m, answer (some (.error .bufferTooSmall)) none)
    | some b =>
      if b.length < descriptorsLength then (m, answer (some (.error .bufferTooSmall)) (some b))
      else if m.hold ≠ .free then (m, answer (some (.error .reentrant)) (some b))
      else
        match m.region.prepare with
        | (region, some log) =>
          let m := { m with region := region }
          (m.say (log ++ [.descriptorPublished E.config.sourceId E.config.event]),
            answer (some (.ok ())) <| some <|
              b.overwrite 0 (Descriptor.layout.encode (E.descriptorFor region)))
        | (region, none) =>
          ({ m with region := region, hold := .exclusive }, answer none (some b))
  | _, _ => (m, ⟨some (.error .invalidParameter), length, count, buffer⟩)

/-- The descriptor that was handed out. -/
def descriptor (E : ErrorSource κ ρ σ) (m : State σ) : Except CallError Descriptor :=
  match m.view with
  | .error e => .error e
  | .ok region => if region.prepared then .ok (E.descriptorFor region) else .error .notReady

/-- Hands out the descriptors through the interface. A buffer that is given has room for them; what
it has beyond that is not touched. -/
def callInterface (E : ErrorSource κ ρ σ) (m : State σ) (c : InterfaceCall) :
    State σ × InterfaceAnswer :=
  if c.nullInterface then (m, ⟨some .invalidParameter, c.length, c.count, c.buffer⟩)
  else
    let (m, a) := E.getDescriptors m (c.buffer.join.map (·.take descriptorsLength)) c.length c.count
    let m := match a.result with
      | none => m
      | some (.ok ()) => m
      | some (.error .bufferTooSmall) => m
      | some (.error e) => m.say [.descriptorsNotReturned e]
    let rest (b : Bytes) : Bytes := a.buffer.getD [] ++ b.drop descriptorsLength
    (m, ⟨a.result.map .ofResult, a.length, a.count, c.buffer.map (·.map rest)⟩)

end ErrorSource
end FirmwareFirst
