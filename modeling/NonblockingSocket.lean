import NonblockingSocket.Capability.Walk
import NonblockingSocket.Host.Scenario
import NonblockingSocket.Session
import NonblockingSocket.Proofs.Courses
import NonblockingSocket.Proofs.Creation
import NonblockingSocket.Proofs.Sessions
import NonblockingSocket.Proofs.Ownership
import NonblockingSocket.Proofs.Coupling
import NonblockingSocket.Proofs.Wording
import NonblockingSocket.Proofs.Reporting
import NonblockingSocket.Proofs.Callers
import NonblockingSocket.Proofs.Persistence
import NonblockingSocket.Proofs.SendLoop
import NonblockingSocket.Proofs.Independence
import NonblockingSocket.Proofs.Conventions
import NonblockingSocket.Proofs.Interchange
import NonblockingSocket.Proofs.ReceiveLoop
import NonblockingSocket.Proofs.LiveSockets
import NonblockingSocket.Proofs.AuditTrail
import NonblockingSocket.Proofs.Muting
import NonblockingSocket.Proofs.Silence
import NonblockingSocket.Proofs.Confinement
import NonblockingSocket.Proofs.KeepAliveRequests
import NonblockingSocket.Proofs.PollDecision
import NonblockingSocket.Proofs.Sentences
import NonblockingSocket.Proofs.FirstAddress
import NonblockingSocket.Proofs.HostTimers
import NonblockingSocket.Proofs.DescriptorSets
import NonblockingSocket.Proofs.Scenarios
import NonblockingSocket.Proofs.UrgentData
import NonblockingSocket.Proofs.Established
import NonblockingSocket.Proofs.HexNumerals
import NonblockingSocket.Proofs.CapabilityText
import NonblockingSocket.Proofs.CapabilitySets
import NonblockingSocket.Proofs.ErrorRecords
import NonblockingSocket.Proofs.QuotedText
import NonblockingSocket.Proofs.SelectUses
import NonblockingSocket.Proofs.RefusedPolls
import NonblockingSocket.Proofs.KeepAliveStacks
