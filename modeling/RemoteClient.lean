import RemoteClient.Files.Tree
import RemoteClient.Main
import RemoteClient.Naming.Session
import RemoteClient.Scenario.Schedule
import RemoteClient.Proofs.Naming.Folding
import RemoteClient.Proofs.Naming.Interchange
import RemoteClient.Proofs.Naming.Probing
import RemoteClient.Proofs.Naming.Stability
import RemoteClient.Proofs.Plan.Locality
import RemoteClient.Proofs.Plan.Methods
import RemoteClient.Proofs.Plan.Names
import RemoteClient.Proofs.Plan.Selection
import RemoteClient.Proofs.Plan.Acceptance
import RemoteClient.Proofs.Plan.Writing
import RemoteClient.Proofs.Interleaving.Choices
import RemoteClient.Proofs.Interleaving.Installs
import RemoteClient.Proofs.Interleaving.Leaks
import RemoteClient.Proofs.Interleaving.Invocations
import RemoteClient.Proofs.Interleaving.Races
import RemoteClient.Proofs.Interleaving.Reuse
import RemoteClient.Proofs.Interleaving.Isolation
import RemoteClient.Proofs.Interleaving.Bookkeeping
import RemoteClient.Proofs.Interleaving.Traffic
import RemoteClient.Proofs.Network.Endings
import RemoteClient.Proofs.Demo.Reports
import RemoteClient.Proofs.Agreement.Scripts
import RemoteClient.Proofs.Service.Presentation
import RemoteClient.Proofs.Settings.Completion
import RemoteClient.Proofs.Command.Failures
