import RecordTypes.World.Access
import RecordTypes.Registry
import RecordTypes.Backend.Scripted
import RecordTypes.Inspection
import RecordTypes.Proofs.Signature.Key
import RecordTypes.Proofs.Memo.Basic
import RecordTypes.Proofs.Memo.Run
import RecordTypes.Proofs.Scalar.Canonical
import RecordTypes.Proofs.Heap.Acyclic
import RecordTypes.Proofs.Heap.Cells
import RecordTypes.Proofs.Heap.Content
import RecordTypes.Proofs.Heap.Equality
import RecordTypes.Proofs.Fields.Lookup
import RecordTypes.Proofs.Fields.Filling
import RecordTypes.Proofs.World.Requests
import RecordTypes.Proofs.Universe.Growth
import RecordTypes.Proofs.Universe.Inheritance
import RecordTypes.Proofs.Universe.Record
import RecordTypes.Proofs.Foundry.Direct
import RecordTypes.Proofs.Foundry.Layouts
import RecordTypes.Proofs.Registry.Run
import RecordTypes.Proofs.Registry.Direct
import RecordTypes.Proofs.Registry.Names
import RecordTypes.Proofs.Registry.Demands
import RecordTypes.Proofs.Registry.Tally
import RecordTypes.Proofs.Registry.Closed
import RecordTypes.Proofs.World.Step
import RecordTypes.Proofs.World.Typed
import RecordTypes.Proofs.World.Steps
import RecordTypes.Proofs.World.Text
import RecordTypes.Proofs.Registry.Steps
import RecordTypes.Proofs.Registry.Made
import RecordTypes.Proofs.Registry.Session
import RecordTypes.Proofs.Registry.Objects
import RecordTypes.Proofs.Registry.Identity
import RecordTypes.Proofs.Registry.Structure
import RecordTypes.Proofs.Registry.Asking
import RecordTypes.Proofs.Registry.Verdict
import RecordTypes.Proofs.Registry.Instances
import RecordTypes.Proofs.Registry.Recording
import RecordTypes.Proofs.Registry.Sealed
import RecordTypes.Proofs.Universe.Ancestors
import RecordTypes.Proofs.Heap.Agreement
import RecordTypes.Proofs.World.Writes
import RecordTypes.Proofs.World.Rendering
import RecordTypes.Proofs.World.Fresh
import RecordTypes.Proofs.Naming.Alike
import RecordTypes.Proofs.Naming.Unnamed
import RecordTypes.Proofs.Naming.Calls
import RecordTypes.Proofs.Naming.Runs
import RecordTypes.Proofs.Registry.Order
import RecordTypes.Proofs.Registry.Binding
import RecordTypes.Proofs.World.Slots
import RecordTypes.Proofs.Registry.Shadowing
import RecordTypes.Proofs.Universe.Chains
import RecordTypes.Proofs.World.Sizes
import RecordTypes.Proofs.World.Views
import RecordTypes.Proofs.Registry.Titles
import RecordTypes.Proofs.Hash.Retaining
import RecordTypes.Proofs.Hash.Digits
import RecordTypes.Proofs.Hash.Lanes
import RecordTypes.Proofs.World.HashCodes
import RecordTypes.Proofs.Calendar.Days
import RecordTypes.Proofs.Calendar.Ticks
import RecordTypes.Proofs.Calendar.Text
import RecordTypes.Proofs.Calendar.Pattern
import RecordTypes.Proofs.Universe.Arrange
import RecordTypes.Proofs.World.Positions
import RecordTypes.Proofs.Registry.Closing
import RecordTypes.Proofs.Universe.Assignability
import RecordTypes.Proofs.Registry.Acceptance
