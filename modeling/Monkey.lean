import Monkey.Output.Host
import Monkey.Output.Transcript
import Monkey.Session.Step
import Monkey.Proofs.Atom
import Monkey.Proofs.Filing
import Monkey.Proofs.WellFormed
import Monkey.Proofs.Equality
import Monkey.Proofs.ScopeHistory
import Monkey.Proofs.SetConstruction
import Monkey.Proofs.HashConstruction
import Monkey.Proofs.Rebuilding
import Monkey.Proofs.Congruence
import Monkey.Proofs.Memoization
import Monkey.Proofs.Provenance
import Monkey.Proofs.CallableIdentity
import Monkey.Proofs.CanonicalOrder
import Monkey.Proofs.Rendering
import Monkey.Proofs.UnionAlgebra
import Monkey.Proofs.ValuelessHash
import Monkey.Proofs.ConstructionEquality
import Monkey.Proofs.OutputFlow
import Monkey.Proofs.ArrayWalk
import Monkey.Proofs.CloseTexts
import Monkey.Proofs.Reading
import Monkey.Proofs.Refusals
import Monkey.Proofs.DisplayReading
import Monkey.Proofs.DebugReading
import Monkey.Proofs.HostOutput
import Monkey.Proofs.ModeGrammar
import Monkey.Proofs.KeyText
import Monkey.Proofs.NameResolution
import Monkey.Proofs.ScopeSummary
