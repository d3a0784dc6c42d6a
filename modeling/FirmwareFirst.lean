import FirmwareFirst.Record.ProcessorReading
import FirmwareFirst.Region.Delivery
import FirmwareFirst.Scenario.Run
import FirmwareFirst.Source.Playback
import FirmwareFirst.Source.Processor
import FirmwareFirst.Source.Ram
import FirmwareFirst.Proofs.Calls
import FirmwareFirst.Proofs.Stretch
import FirmwareFirst.Proofs.RegionMemory
import FirmwareFirst.Proofs.SharedMemory
import FirmwareFirst.Proofs.Reader
import FirmwareFirst.Proofs.Conservation
import FirmwareFirst.Proofs.Reentrancy
import FirmwareFirst.Proofs.Erasure
import FirmwareFirst.Proofs.Atomicity
import FirmwareFirst.Proofs.RegisterTrace
import FirmwareFirst.Proofs.ProcessorEvents
import FirmwareFirst.Proofs.LastReport
import FirmwareFirst.Proofs.Beside
import FirmwareFirst.Proofs.Secrecy
import FirmwareFirst.Proofs.Installations
import FirmwareFirst.Proofs.Reachability
import FirmwareFirst.Proofs.EventOutcomes
import FirmwareFirst.Proofs.InterfaceCalls
import FirmwareFirst.Proofs.WireFormat
import FirmwareFirst.Proofs.Bits
import FirmwareFirst.Proofs.HandlerStatus
import FirmwareFirst.Proofs.Publication
import FirmwareFirst.Proofs.SectionReading
import FirmwareFirst.Proofs.ProcessorViews
import FirmwareFirst.Proofs.ReportHistory
import FirmwareFirst.Proofs.Bounds
import FirmwareFirst.Proofs.RamSummary
import FirmwareFirst.Proofs.Lengths
import FirmwareFirst.Proofs.StatusUpdates
import FirmwareFirst.Proofs.RegisterContexts
