import FirmwareFirst.Record.Descriptor
import FirmwareFirst.Region
import FirmwareFirst.Wire.Placement

/-!
# Deliveries

The operating system's side of a region. All it starts from are the bytes of a descriptor: it finds
the status register through them, follows the address held there to the status block, and takes the
header, the data entry, and as many bytes of section as the entry says. `Region.deliver` is that
walk. It fails where it would leave the region. `Delivery.Carries` says what a delivery must hold
for a report to have arrived.
-/

namespace FirmwareFirst

namespace Region

/-- The `length` bytes at an address, if they lie in the region. -/
def load (r : Region) (address : UInt64) (length : Nat) : Option Bytes :=
  let start := (address - r.base).toNat
  if start + length ≤ r.size then some (r.memory.window start length) else none

end Region
end FirmwareFirst
