import OntoWrap.Main
import OntoWrap.Rdf.Pattern
import OntoWrap.Text.Utf8
import OntoWrap.Proofs.Accessors
import OntoWrap.Proofs.Ancestry
import OntoWrap.Proofs.Collisions
import OntoWrap.Proofs.QtComments
import OntoWrap.Proofs.QtTagging
import OntoWrap.Proofs.References
import OntoWrap.Proofs.RustCode
import OntoWrap.Proofs.RustTagging
import OntoWrap.Proofs.SafePaths
import OntoWrap.Proofs.SameStatements
import OntoWrap.Proofs.IncludeGuards
import OntoWrap.Proofs.TypeNames
import OntoWrap.Proofs.LegalNames
import OntoWrap.Proofs.HiddenMembers
import OntoWrap.Proofs.AtomicGeneration
import OntoWrap.Proofs.Reruns
import OntoWrap.Proofs.ExactIndex
import OntoWrap.Proofs.PatternAnswers
import OntoWrap.Proofs.PlacedLookups
import OntoWrap.Proofs.Gathering
import OntoWrap.Proofs.GraphNames
import OntoWrap.Proofs.ModuleTree
import OntoWrap.Proofs.Prefixing
import OntoWrap.Proofs.AddedClass
import OntoWrap.Proofs.LineFilling
import OntoWrap.Proofs.BothTargets
import OntoWrap.Proofs.ReadBack
import OntoWrap.Proofs.SnakeCase
import OntoWrap.Proofs.IriParts
import OntoWrap.Proofs.WrittenBounds
