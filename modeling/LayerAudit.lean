import LayerAudit.Main
import LayerAudit.Proofs.Graph.Replay
import LayerAudit.Proofs.Audit.Merge
import LayerAudit.Proofs.Audit.Files
import LayerAudit.Proofs.Extraction.TagOrder
import LayerAudit.Proofs.Audit.BindingOrder
import LayerAudit.Proofs.Extraction.Ends
import LayerAudit.Proofs.Audit.Ends
import LayerAudit.Proofs.Text
import LayerAudit.Proofs.Extraction.Imports
import LayerAudit.Proofs.Policy.Dependencies
import LayerAudit.Proofs.Policy.Findings
import LayerAudit.Proofs.Audit.Findings
import LayerAudit.Proofs.Audit.Isolation
import LayerAudit.Proofs.Audit.MergeOrder
import LayerAudit.Proofs.Audit.Descent
import LayerAudit.Proofs.Tree.Laying
import LayerAudit.Proofs.Tree.Traversal
import LayerAudit.Proofs.Tree.Outline
import LayerAudit.Proofs.Tree.Uses
import LayerAudit.Proofs.Extraction.StoreAccess
import LayerAudit.Proofs.Extraction.StoreHooks
import LayerAudit.Proofs.Extraction.StateFields
import LayerAudit.Proofs.Extraction.StoreUses
import LayerAudit.Proofs.Extraction.StoreWrites
import LayerAudit.Proofs.Extraction.StoreReceivers
import LayerAudit.Proofs.Extraction.RouteTable
import LayerAudit.Proofs.Files.Tree
import LayerAudit.Proofs.Files.Lookup
import LayerAudit.Proofs.Files.Writing
import LayerAudit.Proofs.Report.Document
import LayerAudit.Proofs.Command.Reader
import LayerAudit.Proofs.Files.Location
import LayerAudit.Proofs.Command.Run
import LayerAudit.Proofs.Command.Repeat
import LayerAudit.Proofs.Path.Walk
import LayerAudit.Proofs.Import.Spelling
import LayerAudit.Proofs.Policy.Verdict
import LayerAudit.Proofs.Policy.FileTypes
import LayerAudit.Proofs.Policy.Precedence
import LayerAudit.Proofs.Policy.RankClosed
import LayerAudit.Proofs.Import.Completion
import LayerAudit.Proofs.Pattern.Matching
import LayerAudit.Proofs.Pattern.Language
import LayerAudit.Proofs.Policy.Placement
import LayerAudit.Proofs.Component.Markers
import LayerAudit.Proofs.Component.Scan
import LayerAudit.Proofs.Component.Overlap
import LayerAudit.Proofs.Component.Scripts
import LayerAudit.Proofs.Component.Template
import LayerAudit.Proofs.Component.StartTag
import LayerAudit.Proofs.Component.RoundTrip
import LayerAudit.Proofs.Component.TagScan
import LayerAudit.Proofs.Component.TemplateTags
import LayerAudit.Proofs.Component.TagPlaces
import LayerAudit.Proofs.Extraction.RouteGroups
import LayerAudit.Proofs.Graph.NodeOrder
import LayerAudit.Proofs.Script.Acceptance
import LayerAudit.Proofs.Script.Searches
import LayerAudit.Proofs.Extraction.RouteDepth
import LayerAudit.Proofs.Config.Nearest
import LayerAudit.Proofs.Report.Contents
