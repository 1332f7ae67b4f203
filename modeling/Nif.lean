import Nif.Gallery
import Nif.Proofs.Acceptance
import Nif.Proofs.AtomOrigins
import Nif.Proofs.Buffers
import Nif.Proofs.CanonicalAtoms
import Nif.Proofs.Description
import Nif.Proofs.Interning
import Nif.Proofs.Isolation
import Nif.Proofs.Lifecycle
import Nif.Proofs.Permanence
import Nif.Proofs.TypedCalls
import Nif.Proofs.Untouched
import Nif.Proofs.Grounding
import Nif.Proofs.Traversal
import Nif.Proofs.Refusals
import Nif.Proofs.RoundTrip
import Nif.Proofs.Kinds
import Nif.Proofs.Representation
import Nif.Proofs.Validity
import Nif.Proofs.Flavour
import Nif.Proofs.Gates
import Nif.Proofs.Answers
import Nif.Proofs.Charlists
import Nif.Proofs.Sizes
import Nif.Proofs.Describing
import Nif.Proofs.Forms
import Nif.Proofs.Primality
import Nif.Proofs.Computing
