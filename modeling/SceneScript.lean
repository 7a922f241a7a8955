import SceneScript.Event.Bus
import SceneScript.Line.Printer
import SceneScript.Main
import SceneScript.Session
import SceneScript.Scheduler.Clock
import SceneScript.Scheduler.History
import SceneScript.Proofs.Index.Gathering
import SceneScript.Proofs.Index.Share
import SceneScript.Proofs.Activity.InFlight
import SceneScript.Proofs.Activity.Replay
import SceneScript.Proofs.Index.Arrangement
import SceneScript.Proofs.Activity.Representation
import SceneScript.Proofs.Activity.Uninterrupted
import SceneScript.Proofs.Activity.Supersession
import SceneScript.Proofs.Line.Boundary
import SceneScript.Proofs.Line.Escape
import SceneScript.Proofs.Line.Arguments
import SceneScript.Proofs.Line.RoundTrip
import SceneScript.Proofs.Line.Columns
import SceneScript.Proofs.Scheduler.Keeping
import SceneScript.Proofs.Scheduler.Waiting
import SceneScript.Proofs.Scheduler.Coalescing
import SceneScript.Proofs.Path.Spelling
import SceneScript.Proofs.Path.Collapse
import SceneScript.Proofs.Disk.Overlong
import SceneScript.Proofs.Disk.Series
import SceneScript.Proofs.Disk.Tree
import SceneScript.Proofs.Disk.Detour
import SceneScript.Proofs.Disk.WellFormed
import SceneScript.Proofs.Scene.Candidates
import SceneScript.Proofs.Scene.Confinement
import SceneScript.Proofs.Scene.Reach
import SceneScript.Proofs.Scene.Listed
import SceneScript.Proofs.Disk.Growth
import SceneScript.Proofs.Output.Escape
import SceneScript.Proofs.Scene.Creation
import SceneScript.Proofs.Scheduler.Arrival
import SceneScript.Proofs.Scheduler.Rest
import SceneScript.Proofs.Watch.Coverage
import SceneScript.Proofs.Project.Scan
import SceneScript.Proofs.Tool.Check
import SceneScript.Proofs.Project.Listing
import SceneScript.Proofs.Session.Quiescence
import SceneScript.Proofs.Text.Runs
import SceneScript.Proofs.Text.Margin
import SceneScript.Proofs.Diagnostic.Codes
import SceneScript.Proofs.Diagnostic.Conditions
import SceneScript.Proofs.Diagnostic.Labels
import SceneScript.Proofs.Diagnostic.Shape
import SceneScript.Proofs.Diagnostic.Collaborators
import SceneScript.Proofs.Diagnostic.Spans
import SceneScript.Proofs.Project.Undefined
import SceneScript.Proofs.Settings.Precedence
import SceneScript.Proofs.Line.Inert
import SceneScript.Proofs.Line.Placement
import SceneScript.Proofs.Diagnostic.Validity
import SceneScript.Proofs.Index.Extraction
import SceneScript.Proofs.Project.Assets
import SceneScript.Proofs.Event.Register
import SceneScript.Proofs.Event.Delivery
import SceneScript.Event.Ledger
import SceneScript.Proofs.Event.Recipients
import SceneScript.Proofs.Event.Standing
import SceneScript.Proofs.Event.Order
import SceneScript.Proofs.Activity.Addressing
import SceneScript.Proofs.Settings.Override
import SceneScript.Proofs.Scene.Created
import SceneScript.Scheduler.Passage
import SceneScript.Proofs.Scheduler.Attendance
import SceneScript.Proofs.Scheduler.Isolation
import SceneScript.Proofs.Scene.Template
import SceneScript.Proofs.Activity.Overtaking
import SceneScript.Proofs.Session.Publication
import SceneScript.Proofs.Watch.Stopping
import SceneScript.Proofs.Line.Cuts
import SceneScript.Proofs.Text.Occurrence
import SceneScript.Proofs.Expression.Identifiers
import SceneScript.Proofs.Disk.Subdirectories
import SceneScript.Proofs.Scene.Directories
