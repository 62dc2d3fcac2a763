import CallGuard.Automation
import CallGuard.Package.Setup
import CallGuard.Session
import CallGuard.Tag.Faces
import CallGuard.Proofs.Running
import CallGuard.Proofs.Classification
import CallGuard.Proofs.CallOutcome
import CallGuard.Proofs.Operations
import CallGuard.Proofs.CallRecord
import CallGuard.Proofs.ModuleOutcome
import CallGuard.Proofs.Towers
import CallGuard.Proofs.NamedArguments
import CallGuard.Proofs.Scrutiny
import CallGuard.Proofs.Agreement
import CallGuard.Proofs.Distinction
import CallGuard.Proofs.UnreadableSignatures
import CallGuard.Proofs.LogAccount
import CallGuard.Proofs.Partition
import CallGuard.Proofs.SignatureReading
import CallGuard.Proofs.LookingUp
import CallGuard.Proofs.SignatureParsing
import CallGuard.Proofs.EntryOrder
import CallGuard.Proofs.Rewrapping
import CallGuard.Proofs.MarkerChoice
import CallGuard.Proofs.Immutability
import CallGuard.Proofs.TriplesOutcome
import CallGuard.Proofs.PrincipalSignature
import CallGuard.Proofs.Shallowness
import CallGuard.Proofs.Messages
import CallGuard.Proofs.WrittenFunctions
import CallGuard.Proofs.DefaultNames
import CallGuard.Proofs.Adoption
import CallGuard.Proofs.AttributeReading
import CallGuard.Proofs.TowerMetadata
import CallGuard.Proofs.Nesting
import CallGuard.Proofs.BoundCalls
import CallGuard.Proofs.Spelling
import CallGuard.Proofs.Promotion
import CallGuard.Proofs.StableRequirements
import CallGuard.Proofs.CallsByRow
import CallGuard.Proofs.MarkerInForce
