import Graft.Expr.Parts
import Graft.Options.Load
import Graft.Proofs.Expr.Canonical
import Graft.Proofs.Match.Candidates
import Graft.Proofs.Match.Congruence
import Graft.Proofs.Match.First
import Graft.Proofs.Match.Generality
import Graft.Proofs.Match.Hygiene
import Graft.Proofs.Match.Recovery
import Graft.Proofs.Match.RoundTrip
import Graft.Proofs.Match.Strictness
import Graft.Proofs.Match.Transport
import Graft.Proofs.Options.Decoding
import Graft.Proofs.Signature.Preorder
import Graft.Proofs.Signature.Verdict
import Graft.Proofs.Subst.Accesses
import Graft.Proofs.Subst.Composition
import Graft.Proofs.Subst.Congruence
import Graft.Proofs.Subst.Faults
import Graft.Proofs.Subst.FreeVariables
import Graft.Proofs.Subst.Locations
import Graft.Proofs.Subst.Occurrences
import Graft.Proofs.Subst.Renaming
import Graft.Proofs.Subst.Run
import Graft.Proofs.Subst.Scope
import Graft.Proofs.Subst.Support
import Graft.Proofs.Traversal.FreeOccurrences
import Graft.Proofs.Traversal.Identifiers
import Graft.Proofs.Traversal.Visits
import Graft.Proofs.Weaving
import Graft.Subst.Relabel
import Graft.Subst.Restrict
import Graft.Subst.Similar
import Graft.Traversal.Trace
import Graft.Weaving
