import YamlShape.GoldenCheck
import YamlShape.Main
import YamlShape.Proofs.Writes
import YamlShape.Proofs.Emission
import YamlShape.Proofs.References
import YamlShape.Proofs.ValueCycles
import YamlShape.Proofs.EagerWalk
import YamlShape.Proofs.Sampling
import YamlShape.Proofs.LimitedSink
import YamlShape.Proofs.Skeleton
import YamlShape.Proofs.Pointers
import YamlShape.Proofs.Names
import YamlShape.Proofs.Blocks
import YamlShape.Proofs.Views
import YamlShape.Proofs.Reordering
import YamlShape.Proofs.Unambiguous
import YamlShape.Proofs.Identifiers
import YamlShape.Proofs.Respelling
import YamlShape.Proofs.Files
import YamlShape.Proofs.Delivery
import YamlShape.Proofs.Overwriting
import YamlShape.Proofs.Policies
import YamlShape.Proofs.Steps
import YamlShape.Proofs.SchemasByPath
import YamlShape.Proofs.FieldIdentifiers
import YamlShape.Proofs.Lines
import YamlShape.Proofs.Paths
import YamlShape.Proofs.Trees
import YamlShape.Proofs.Patterns
import YamlShape.Proofs.WrittenTrees
import YamlShape.Proofs.Globbing
import YamlShape.Proofs.Blessing
import YamlShape.Proofs.AfterBlessing
import YamlShape.Proofs.Resolution
import YamlShape.Proofs.Discoveries
