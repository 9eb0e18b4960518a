import CanonicalLR.Journal
import CanonicalLR.Main
import CanonicalLR.Proofs.Acceptance
import CanonicalLR.Proofs.Brackets
import CanonicalLR.Proofs.ClosedSets
import CanonicalLR.Proofs.Cutoff
import CanonicalLR.Proofs.Inventory
import CanonicalLR.Proofs.Knuth
import CanonicalLR.Proofs.Lockstep
import CanonicalLR.Proofs.Postorder
import CanonicalLR.Proofs.Printing
import CanonicalLR.Proofs.Renumbering
import CanonicalLR.Proofs.Replay
import CanonicalLR.Proofs.Replies
import CanonicalLR.Proofs.Serialised
import CanonicalLR.Proofs.SharedInput
import CanonicalLR.Proofs.TextKeys
import CanonicalLR.Proofs.Unreached
