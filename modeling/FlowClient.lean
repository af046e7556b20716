import FlowClient.Document.Encode
import FlowClient.FileSystem.Tree
import FlowClient.Main
import FlowClient.Proofs.Declared
import FlowClient.Proofs.Levels
import FlowClient.Proofs.PathEntries
import FlowClient.Proofs.RequestUrl
import FlowClient.Proofs.Renaming
import FlowClient.Proofs.Signature
import FlowClient.Proofs.TypeImports
import FlowClient.Proofs.Declarations
import FlowClient.Proofs.Rejection
import FlowClient.Proofs.Keyed
import FlowClient.Proofs.EntryOrder
import FlowClient.Proofs.NamedTypes
import FlowClient.Proofs.ModuleGraph
import FlowClient.Proofs.EndpointPlaces
import FlowClient.Proofs.DocumentSchemas
import FlowClient.Proofs.Opaque
import FlowClient.Proofs.FilePlaces
import FlowClient.Proofs.JsonDraft
import FlowClient.Proofs.Restored
import FlowClient.Proofs.RoundTrip
import FlowClient.Proofs.Identifiers
import FlowClient.Proofs.WrittenNames
import FlowClient.Proofs.FileTree
import FlowClient.Proofs.TreePlaces
import FlowClient.Proofs.Outcomes
import FlowClient.Proofs.Generation
import FlowClient.Proofs.FailedGeneration
import FlowClient.Proofs.GeneratedFiles
import FlowClient.Proofs.Composition
import FlowClient.Proofs.Feeding
import FlowClient.Proofs.NotedNames
import FlowClient.Proofs.Precedence
import FlowClient.Proofs.Coherence
import FlowClient.Proofs.Warnings
import FlowClient.Proofs.Literals
import FlowClient.Proofs.PrintedTypes
import FlowClient.Proofs.PrintedUrl
import FlowClient.Proofs.Comments
import FlowClient.Proofs.Segments
import FlowClient.Proofs.Extensions
import FlowClient.Proofs.RouteNames
import FlowClient.Proofs.Slugs
