import CallAtlas.Cache.Run
import CallAtlas.Main
import CallAtlas.Session.Step
import CallAtlas.Proofs.Cache.Lane
import CallAtlas.Proofs.Cache.Sound
import CallAtlas.Proofs.Cache.Operations
import CallAtlas.Proofs.Cache.Simulation
import CallAtlas.Proofs.Cache.Orderly
import CallAtlas.Proofs.Cache.Reachable
import CallAtlas.Proofs.Cache.SingleFlight
import CallAtlas.Proofs.Cache.Waiting
import CallAtlas.Proofs.Cache.FirstEnd
import CallAtlas.Proofs.Cache.Handover
import CallAtlas.Proofs.Resolution.Window
import CallAtlas.Proofs.Graph.Artifact
import CallAtlas.Proofs.Workspace.Query
import CallAtlas.Proofs.Cache.Transparent
import CallAtlas.Proofs.Navigator.Click
import CallAtlas.Proofs.Cache.IdleSlot
import CallAtlas.Proofs.Report.Groups
import CallAtlas.Proofs.Report.Layout
import CallAtlas.Proofs.Report.Link
import CallAtlas.Proofs.Report.ReadBack
import CallAtlas.Proofs.Report.LinkOrigin
import CallAtlas.Proofs.Cache.Residence
import CallAtlas.Proofs.Session.Lone
import CallAtlas.Proofs.Session.FirstLoad
import CallAtlas.Proofs.Path.Push
import CallAtlas.Proofs.Workspace.ClickBack
import CallAtlas.Proofs.Workspace.ClickKey
import CallAtlas.Proofs.Text.ByteOrder
import CallAtlas.Proofs.Graph.Construction
import CallAtlas.Proofs.Cache.SideBySide
import CallAtlas.Proofs.Cache.Isolation
import CallAtlas.Proofs.Cache.Residents
import CallAtlas.Proofs.Cache.Retention
import CallAtlas.Proofs.Json.Sorted
import CallAtlas.Proofs.Server.Request
import CallAtlas.Proofs.Server.Response
import CallAtlas.Proofs.Cache.Stock
import CallAtlas.Proofs.Server.Course
import CallAtlas.Proofs.Cache.Caller
import CallAtlas.Proofs.Server.Shift
import CallAtlas.Proofs.Server.Completion
import CallAtlas.Proofs.Server.Stream
import CallAtlas.Proofs.Server.BadLine
import CallAtlas.Proofs.Server.Accounting
import CallAtlas.Proofs.Server.Schedule
import CallAtlas.Proofs.Resolution.Scan
import CallAtlas.Proofs.Workspace.Confinement
import CallAtlas.Proofs.Json.Form
import CallAtlas.Proofs.Graph.EntryForm
import CallAtlas.Proofs.CommandLine.Spelling
import CallAtlas.Proofs.CommandLine.Surfaces
import CallAtlas.Proofs.Resolution.Candidates
import CallAtlas.Proofs.Workspace.RelativeClick
import CallAtlas.Proofs.Session.Tidy
import CallAtlas.Proofs.Session.Residue
import CallAtlas.Proofs.Navigator.Load
import CallAtlas.Proofs.Text.Reading
import CallAtlas.Proofs.Graph.Spelling
import CallAtlas.Proofs.Graph.DefinitionForm
import CallAtlas.Proofs.Graph.Key
import CallAtlas.Proofs.Report.Columns
import CallAtlas.Proofs.Report.Partition
import CallAtlas.Proofs.Graph.Counts
import CallAtlas.Proofs.Cache.SharedFailure
import CallAtlas.Proofs.Cache.Counter
