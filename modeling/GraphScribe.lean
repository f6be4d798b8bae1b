import GraphScribe.Main
import GraphScribe.Proofs.NameTable
import GraphScribe.Proofs.Selection.Groups
import GraphScribe.Proofs.Shape.Walk
import GraphScribe.Proofs.Shape.Linking
import GraphScribe.Proofs.Shape.Violation
import GraphScribe.Proofs.Batch.Transform
import GraphScribe.Proofs.Batch.Collision
import GraphScribe.Proofs.Batch.Linking
import GraphScribe.Proofs.Shape.Answer
import GraphScribe.Proofs.Shape.Response
import GraphScribe.Proofs.Model.ArgumentTypes
import GraphScribe.Proofs.Model.Registries
import GraphScribe.Proofs.Batch.Discriminators
import GraphScribe.Proofs.Batch.Locality
import GraphScribe.Proofs.Batch.Capture
import GraphScribe.Proofs.Schema.Reading
import GraphScribe.Proofs.Model.References
import GraphScribe.Proofs.Batch.Expansion
import GraphScribe.Proofs.Output.SelfContained
import GraphScribe.Proofs.Shape.NameOrder
import GraphScribe.Proofs.Shape.Merging
import GraphScribe.Proofs.Batch.Resolution
import GraphScribe.Proofs.CommandLine.Run
import GraphScribe.Proofs.Batch.Keys
import GraphScribe.Proofs.Batch.Typenames
import GraphScribe.Proofs.Model.Descriptor
import GraphScribe.Proofs.TypeScript.Wrapping
import GraphScribe.Proofs.Output.Documentation
import GraphScribe.Proofs.Output.Filtering
import GraphScribe.Proofs.Output.Aliases
import GraphScribe.Proofs.Template.Blocks
import GraphScribe.Proofs.NameTable.Requests
import GraphScribe.Proofs.Selection.Stability
import GraphScribe.Proofs.Config.Reading
