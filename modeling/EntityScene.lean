import EntityScene.Act
import EntityScene.Commands
import EntityScene.Config
import EntityScene.Dialogue
import EntityScene.Fault
import EntityScene.Identity
import EntityScene.Identity.Pool
import EntityScene.Inputs
import EntityScene.Join
import EntityScene.Journal
import EntityScene.Number.Binary
import EntityScene.Number.Decimal
import EntityScene.Number.Shortest
import EntityScene.Outputs
import EntityScene.Plan
import EntityScene.Proofs.Acceptance
import EntityScene.Proofs.Act
import EntityScene.Proofs.Application
import EntityScene.Proofs.Arrivals
import EntityScene.Proofs.Births
import EntityScene.Proofs.Blind
import EntityScene.Proofs.Buffers
import EntityScene.Proofs.Commute
import EntityScene.Proofs.Construction
import EntityScene.Proofs.Data
import EntityScene.Proofs.DirectWrites
import EntityScene.Proofs.FirstValues
import EntityScene.Proofs.Footprint
import EntityScene.Proofs.GameTime
import EntityScene.Proofs.Holdings
import EntityScene.Proofs.Inheritance
import EntityScene.Proofs.Interruption
import EntityScene.Proofs.Issuance
import EntityScene.Proofs.Join
import EntityScene.Proofs.Joinings
import EntityScene.Proofs.Ledger
import EntityScene.Proofs.Lifecycle
import EntityScene.Proofs.Lockstep
import EntityScene.Proofs.Oblivious
import EntityScene.Proofs.Occupancy
import EntityScene.Proofs.Outputs
import EntityScene.Proofs.Ownership
import EntityScene.Proofs.Plan
import EntityScene.Proofs.Pool
import EntityScene.Proofs.PoolHistory
import EntityScene.Proofs.Population
import EntityScene.Proofs.Reflects
import EntityScene.Proofs.Registration
import EntityScene.Proofs.Rejections
import EntityScene.Proofs.Requests
import EntityScene.Proofs.Roster
import EntityScene.Proofs.Run
import EntityScene.Proofs.Scratch
import EntityScene.Proofs.Setup
import EntityScene.Proofs.Simulation
import EntityScene.Proofs.StaticJoin
import EntityScene.Proofs.Storage
import EntityScene.Proofs.Tenure
import EntityScene.Proofs.TickSpans
import EntityScene.Proofs.TraceContents
import EntityScene.Proofs.TraceFiles
import EntityScene.Proofs.Transcript
import EntityScene.Proofs.Traversal
import EntityScene.Proofs.Unsupported
import EntityScene.Proofs.ValueFlow
import EntityScene.Proofs.Verdict
import EntityScene.Proofs.Visit
import EntityScene.Proofs.Writings
import EntityScene.Resource.Descriptor
import EntityScene.Resource.Kind
import EntityScene.Resource.Registry
import EntityScene.Scene
import EntityScene.Scene.Data
import EntityScene.Schedule
import EntityScene.Script
import EntityScene.Storage
import EntityScene.Storage.Events
import EntityScene.Storage.Indexed
import EntityScene.Storage.Scalar
import EntityScene.Text.Printable
import EntityScene.Text.Quoted
import EntityScene.Toml.Document
import EntityScene.Toml.Number
import EntityScene.Toml.Reader
import EntityScene.Toml.Text
import EntityScene.Toml.Value
import EntityScene.Trace.Disk
import EntityScene.Trace.Event
import EntityScene.Trace.Host
import EntityScene.Trace.Recorder
import EntityScene.Value
import EntityScene.Value.Arithmetic
