import FirmwareFirst.Wire.Layout

/-!
# GUIDs

A GUID is kept as the 16 bytes it is stored on. Written as text, its first three groups are numbers
and are therefore stored least significant byte first; the last two groups are bytes in order.
-/

namespace FirmwareFirst

/-- A globally unique identifier, as stored. -/
structure Guid where
  bytes : Vector UInt8 16
deriving DecidableEq

namespace Guid

/-- The layout of a GUID: its bytes. -/
def layout : Layout Guid :=
  (Layout.bytes 16).as ⟨fun v => ⟨v⟩, fun g => g.bytes, fun _ => rfl, fun _ => rfl⟩

open Layout in
/-- The GUID with text groups `a`, `b` and `c`, followed by the eight bytes of the last two. -/
def ofGroups (a : UInt32) (b c : UInt16) (d : Vector UInt8 8) : Guid :=
  Guid.layout.decode (uint32.encode a ++ uint16.encode b ++ uint16.encode c ++ d.toList)

end Guid
end FirmwareFirst
