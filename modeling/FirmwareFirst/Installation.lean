import FirmwareFirst.ErrorSource.Descriptors

/-!
# Installing an error source

An error source is installed with the firmware core in two steps: its handler is registered, and
then its interface is installed for the builder of the operating system's tables to find. When the
second step fails, the first is taken back. What the core is, and what it does with a request, is
left open: `Services W ι` are the requests as they change a world `W`, in which interfaces are of
type `ι`.
-/

namespace FirmwareFirst

/-- A handle of the firmware core. -/
abbrev Handle := UInt64

/-- The requests that an installation makes. -/
structure Services (W ι : Type) where
  /-- Registers the handler under a GUID. -/
  register : Guid → W → W × Except Status Handle
  /-- Installs an interface under a GUID. -/
  install : Guid → ι → W → W × Except Status Handle
  /-- Takes a registration back. -/
  unregister : Handle → W → W × Except Status Unit
  /-- Makes an interface to the error source. -/
  allocate : W → W × ι
  /-- Frees an interface. -/
  release : ι → W → W
  log : Message → W → W
  /-- The base of the error source's region, or zero when the region cannot be looked at. -/
  regionBase : W → UInt64

/-- Installs an error source. A failed installation answers the status of the step that failed. -/
def installSource {W ι : Type} (s : Services W ι) (config : SourceConfig) (w : W) :
    W × Except CallError Handle :=
  match s.register config.handler w with
  | (w, .error status) =>
    (s.log (.handlerNotRegistered config.sourceId status) w, .error (.core status))
  | (w, .ok registration) =>
    let (w, interface) := s.allocate w
    match s.install descriptorProtocol interface w with
    | (w, .ok handle) =>
      (s.log (.sourceInstalled config.sourceId config.event (s.regionBase w)) w, .ok handle)
    | (w, .error status) =>
      let w := s.log (.interfaceNotInstalled config.sourceId status) w
      let w := s.release interface w
      match s.unregister registration w with
      | (w, .ok ()) => (w, .error (.core status))
      | (w, .error failure) =>
        (s.log (.handlerNotUnregistered config.sourceId failure) w, .error (.core status))

end FirmwareFirst
