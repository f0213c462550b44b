import KernelStart.Boot.Rehearsal
import KernelStart.MainLoop.Rig
import KernelStart.Machine.SerialBench
import KernelStart.Machine.VectorBench
import KernelStart.Machine.VectorHistory
import KernelStart.Pci.CapabilityChain
import KernelStart.Pci.Topology
import KernelStart.Program.Conversation
import KernelStart.Usb.Bench
import KernelStart.Usb.Scripted
import KernelStart.Proofs.BusAgenda
import KernelStart.Proofs.BusWalkOrder
import KernelStart.Proofs.BusCoverage
import KernelStart.MainLoop.History
import KernelStart.MainLoop.DropReport
import KernelStart.Program.Requests
import KernelStart.Proofs.LoopCycle
import KernelStart.Proofs.MessageConservation
import KernelStart.Proofs.MessageSetup
import KernelStart.Proofs.DropAccounting
import KernelStart.Proofs.VectorArming
import KernelStart.Program.Effects
import KernelStart.Proofs.ControllerPreparation
import KernelStart.Boot.Course
import KernelStart.Proofs.BootStages
import KernelStart.Proofs.BootOrdering
import KernelStart.Proofs.EventDraining
import KernelStart.Proofs.BusAnnouncements
import KernelStart.Program.Conclusion
import KernelStart.Proofs.ControllerStart
import KernelStart.Program.Simulation
import KernelStart.Proofs.ConfigAddresses
import KernelStart.Proofs.PortAccess
import KernelStart.Proofs.CapabilitySearch
import KernelStart.Proofs.MessageRegisters
import KernelStart.Proofs.BusWalkBounds
import KernelStart.Proofs.LogThreshold
import KernelStart.Proofs.CapabilityReads
import KernelStart.Pci.VisitedBits
import KernelStart.Proofs.VisitedPlaces
import KernelStart.Proofs.MessageRefusals
import KernelStart.Proofs.MessageReprogramming
import KernelStart.Proofs.BusWalkReads
import KernelStart.Proofs.BusDependence
import KernelStart.Proofs.BarDecoding
import KernelStart.MainLoop.Interruption
import KernelStart.Proofs.LoopMasking
import KernelStart.MainLoop.HandlerCalls
import KernelStart.Proofs.RigFrames
import KernelStart.Proofs.HandlerCalls
import KernelStart.Proofs.HandlerIndependence
import KernelStart.Proofs.FrameHandout
import KernelStart.Proofs.EventProcessing
import KernelStart.Device.RegisterDialogue
import KernelStart.Proofs.RegisterAccess
import KernelStart.Proofs.ControllerReset
import KernelStart.Proofs.RegisterWindow
import KernelStart.Queue.History
import KernelStart.Proofs.MainQueueAccounts
import KernelStart.Queue.Contract
import KernelStart.Proofs.QueueContract
import KernelStart.Proofs.ControllerChoice
import KernelStart.Proofs.DeviceMapping
import KernelStart.Proofs.HeapMapping
import KernelStart.Descriptor.Row
import KernelStart.Proofs.SegmentFields
import KernelStart.Proofs.GateFields
import KernelStart.Usb.RootPortVisit
import KernelStart.Proofs.RootPortConfiguration
