import SmartDevice.Client.Basic
import SmartDevice.Family
import SmartDevice.Json.Progress
import SmartDevice.Main
import SmartDevice.Operation.Program
import SmartDevice.Proofs.Command.Passage
import SmartDevice.Proofs.Command.SingleFlight
import SmartDevice.Proofs.Credential.Decision
import SmartDevice.Proofs.Device.Linearization
import SmartDevice.Proofs.Device.Persistence
import SmartDevice.Proofs.Http.Authorization
import SmartDevice.Proofs.Operation.Exclusion
import SmartDevice.Provision.Tool
import SmartDevice.ReadWriteLock
import SmartDevice.Server.Basic
import SmartDevice.Proofs.Command.Conduct
import SmartDevice.Proofs.Command.Twins
import SmartDevice.Proofs.Command.Effect
import SmartDevice.Proofs.Http.Commands
import SmartDevice.Proofs.Http.Register
import SmartDevice.Proofs.Http.Twins
import SmartDevice.Proofs.Client.Agreement
import SmartDevice.Proofs.Client.Delivery
import SmartDevice.Proofs.Client.Shapes
import SmartDevice.Proofs.Client.Retries
import SmartDevice.Proofs.ReadWriteLock.Wakeup
import SmartDevice.Proofs.Device.Startup
import SmartDevice.Proofs.Http.Envelope
import SmartDevice.Proofs.Http.Secrecy
import SmartDevice.Proofs.Provision.Reports
import SmartDevice.Proofs.Provision.Secrecy
import SmartDevice.Proofs.RecordFile.Atomicity
import SmartDevice.Proofs.Config.Canonical
import SmartDevice.Proofs.Identity.NormalForm
import SmartDevice.Proofs.Generator.Identifiers
import SmartDevice.Proofs.ReadWriteLock.Settling
import SmartDevice.Proofs.Key.Encodings
import SmartDevice.Proofs.Generator.Succession
