/-!
# Block status

The first word of a status block: four flags saying which kinds of error the block describes, and
the number of its data entries.

| bits   | meaning                        |
|--------|--------------------------------|
| 0      | an uncorrectable error         |
| 1      | a correctable error            |
| 2      | several uncorrectable errors   |
| 3      | several correctable errors     |
| 4..13  | number of data entries         |
-/

namespace FirmwareFirst

/-- The block status word. -/
structure BlockStatus where
  bits : UInt32
deriving DecidableEq

namespace BlockStatus

/-- The flag for an uncorrectable error. -/
def uncorrectableFlag : UInt32 := 0x1

/-- The flag for a correctable error. -/
def correctableFlag : UInt32 := 0x2

/-- The flag for several uncorrectable errors. -/
def multipleUncorrectableFlag : UInt32 := 0x4

/-- The flag for several correctable errors. -/
def multipleCorrectableFlag : UInt32 := 0x8

/-- The position of the entry count. -/
def entryCountShift : UInt32 := 4

/-- The ten bits of the entry count, before they are shifted into place. -/
def entryCountMask : UInt32 := 0x3ff

/-- The block status that says nothing. -/
def empty : BlockStatus := ⟨0⟩

/-- The status with a flag set or cleared. -/
def withFlag (s : BlockStatus) (flag : UInt32) (set : Bool) : BlockStatus :=
  ⟨if set then s.bits ||| flag else s.bits &&& ~~~flag⟩

def withUncorrectable (s : BlockStatus) (set : Bool) : BlockStatus :=
  s.withFlag uncorrectableFlag set

def withCorrectable (s : BlockStatus) (set : Bool) : BlockStatus :=
  s.withFlag correctableFlag set

def withMultipleUncorrectable (s : BlockStatus) (set : Bool) : BlockStatus :=
  s.withFlag multipleUncorrectableFlag set

def withMultipleCorrectable (s : BlockStatus) (set : Bool) : BlockStatus :=
  s.withFlag multipleCorrectableFlag set

/-- The status with the number of data entries set; of the number, ten bits count. -/
def withEntryCount (s : BlockStatus) (count : UInt16) : BlockStatus :=
  ⟨(s.bits &&& ~~~(entryCountMask <<< entryCountShift)) |||
    ((count.toUInt32 &&& entryCountMask) <<< entryCountShift)⟩

/-- Whether a flag is set. -/
def hasFlag (s : BlockStatus) (flag : UInt32) : Bool :=
  s.bits &&& flag != 0

def uncorrectable (s : BlockStatus) : Bool :=
  s.hasFlag uncorrectableFlag

def correctable (s : BlockStatus) : Bool :=
  s.hasFlag correctableFlag

def multipleUncorrectable (s : BlockStatus) : Bool :=
  s.hasFlag multipleUncorrectableFlag

def multipleCorrectable (s : BlockStatus) : Bool :=
  s.hasFlag multipleCorrectableFlag

/-- The number of data entries. -/
def entryCount (s : BlockStatus) : UInt16 :=
  ((s.bits >>> entryCountShift) &&& entryCountMask).toUInt16

/-- One change of a block status. -/
inductive Update
  | uncorrectable (set : Bool)
  | correctable (set : Bool)
  | multipleUncorrectable (set : Bool)
  | multipleCorrectable (set : Bool)
  | entryCount (count : UInt16)
deriving DecidableEq

/-- The status after one change. -/
def update (s : BlockStatus) : Update → BlockStatus
  | .uncorrectable set => s.withUncorrectable set
  | .correctable set => s.withCorrectable set
  | .multipleUncorrectable set => s.withMultipleUncorrectable set
  | .multipleCorrectable set => s.withMultipleCorrectable set
  | .entryCount count => s.withEntryCount count

/-- The status before and after each of some changes. -/
def history (s : BlockStatus) : List Update → List BlockStatus
  | [] => [s]
  | u :: rest => s :: (s.update u).history rest

end BlockStatus
end FirmwareFirst
