import BlockVolumes.Csi.Document.Answer
import BlockVolumes.Memory.Document.Notes
import BlockVolumes.Memory.Document.Report
import BlockVolumes.Memory.Document.World
import BlockVolumes.Memory.Scenario
import BlockVolumes.Memory.Shell
import BlockVolumes.Mount.SystemMounter
import BlockVolumes.Service.NodeAgent
import BlockVolumes.Settings.Document
import BlockVolumes.Proofs.Program.Behaviour
import BlockVolumes.Proofs.Program.Group
import BlockVolumes.Proofs.Memory.Backend
import BlockVolumes.Proofs.Memory.World
import BlockVolumes.Proofs.Creation.Duplicates
import BlockVolumes.Proofs.Creation.Repeated
import BlockVolumes.Proofs.Creation.Survivor
import BlockVolumes.Proofs.Creation.Cleanup
import BlockVolumes.Proofs.Transitions.Record
import BlockVolumes.Proofs.Transitions.Looks
import BlockVolumes.Proofs.Waiting.Polls
import BlockVolumes.Proofs.Transitions.Controller
import BlockVolumes.Proofs.Creation.Loss
import BlockVolumes.Proofs.Reporting.Agreement
import BlockVolumes.Proofs.Attaching.Ownership
import BlockVolumes.Proofs.Attaching.Refinement
import BlockVolumes.Proofs.Attaching.Publication
import BlockVolumes.Proofs.Attaching.Republication
import BlockVolumes.Proofs.Attaching.Detachment
import BlockVolumes.Proofs.Racing.Stock
import BlockVolumes.Proofs.Racing.Creators
import BlockVolumes.Proofs.Parameters.Acceptance
import BlockVolumes.Proofs.Racing.Convergence
import BlockVolumes.Proofs.Growing.Concurrent
import BlockVolumes.Proofs.Capacity
import BlockVolumes.Proofs.Growing.Observation
import BlockVolumes.Proofs.Memory.Mounter
import BlockVolumes.Proofs.Staging.Formatting
import BlockVolumes.Proofs.Files.Names
import BlockVolumes.Proofs.Files.Walking
import BlockVolumes.Proofs.Files.Changing
import BlockVolumes.Proofs.Mounting.Ledger
import BlockVolumes.Proofs.Mounting.Lookup
import BlockVolumes.Proofs.Memory.Outcome
import BlockVolumes.Proofs.Mounting.Consistency
import BlockVolumes.Proofs.Mounting.Serving
import BlockVolumes.Proofs.Mounting.Publishing
import BlockVolumes.Proofs.Program.Failing
import BlockVolumes.Proofs.Rejection.Effects
import BlockVolumes.Proofs.Registration.Flight
import BlockVolumes.Proofs.Files.Direct
import BlockVolumes.Proofs.Mounting.Plain
import BlockVolumes.Proofs.Mounting.Tracing
import BlockVolumes.Proofs.Mounting.Resizing
import BlockVolumes.Proofs.Waiting.Schedule
import BlockVolumes.Proofs.Allocation
import BlockVolumes.Proofs.Scheduling
import BlockVolumes.Proofs.Creation.Attempts
import BlockVolumes.Proofs.Tags
import BlockVolumes.Proofs.System.Table
import BlockVolumes.Proofs.System.Logging
import BlockVolumes.Proofs.System.Options
import BlockVolumes.Proofs.System.Binding
import BlockVolumes.Proofs.Staging.Missing
import BlockVolumes.Proofs.System.Machine
import BlockVolumes.Proofs.System.Replacement
import BlockVolumes.Proofs.Reporting.Validation
import BlockVolumes.Proofs.Registration.Labels
import BlockVolumes.Proofs.Reporting.Counts
import BlockVolumes.Proofs.Registration.Retrying
import BlockVolumes.Proofs.Devices
import BlockVolumes.Proofs.Capacity.Units
import BlockVolumes.Proofs.Scheduling.Classes
import BlockVolumes.Proofs.Redaction
import BlockVolumes.Proofs.Mounting.Judgement
import BlockVolumes.Proofs.System.Rereading
