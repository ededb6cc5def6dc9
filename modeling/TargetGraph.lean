import TargetGraph.Main
import TargetGraph.Proofs.Registration
import TargetGraph.Source.FileTree
import TargetGraph.Proofs.Resolution
import TargetGraph.Proofs.Building
import TargetGraph.Proofs.Representation
import TargetGraph.Proofs.Loading
import TargetGraph.Graph.Session
import TargetGraph.Proofs.FirstFault
import TargetGraph.Proofs.Lifecycle
import TargetGraph.Proofs.Lookups
import TargetGraph.Proofs.Shape
import TargetGraph.Proofs.RootEntries
import TargetGraph.Proofs.Pipeline
import TargetGraph.Proofs.EntryPoints
import TargetGraph.Proofs.JsonForm
import TargetGraph.Proofs.BlockForm
import TargetGraph.Proofs.RegularDocuments
import TargetGraph.Proofs.Accesses
import TargetGraph.Proofs.Growth
import TargetGraph.Proofs.Reordering
import TargetGraph.Proofs.References
import TargetGraph.Proofs.JsonRecords
import TargetGraph.Proofs.CommandOutcome
import TargetGraph.Proofs.JsonViews
import TargetGraph.Proofs.ErrorLines
import TargetGraph.Proofs.BareTexts
import TargetGraph.Proofs.LoadLog
import TargetGraph.Proofs.FrontOptions
import TargetGraph.Proofs.Verbosity
import TargetGraph.Proofs.Listings
