import NodeReclaim.Rehearsal.World
import NodeReclaim.Main
import NodeReclaim.Proofs.Runs
import NodeReclaim.Proofs.Trace
import NodeReclaim.Proofs.Tries
import NodeReclaim.Proofs.Access
import NodeReclaim.Proofs.Objects
import NodeReclaim.Proofs.Plan
import NodeReclaim.Proofs.Closure
import NodeReclaim.Proofs.DiskBatch
import NodeReclaim.Proofs.EmptyGroup
import NodeReclaim.Proofs.Vanishing
import NodeReclaim.Proofs.Refusals
import NodeReclaim.Proofs.Order
import NodeReclaim.Proofs.Rounds
import NodeReclaim.Proofs.Confirmation
import NodeReclaim.Proofs.Double.Rounding
import NodeReclaim.Proofs.Double.Packing
import NodeReclaim.Proofs.Double.Arithmetic
import NodeReclaim.Proofs.Ownership
import NodeReclaim.Proofs.SharedGroup
import NodeReclaim.Proofs.Double.Comparison
import NodeReclaim.Proofs.Jitter
import NodeReclaim.Proofs.Patience
import NodeReclaim.Proofs.Backoff
import NodeReclaim.Proofs.Reads
import NodeReclaim.Proofs.Operations
import NodeReclaim.Proofs.Loading
import NodeReclaim.Proofs.Commands
import NodeReclaim.Proofs.Precedence
import NodeReclaim.Proofs.Unreadable
import NodeReclaim.Proofs.Likeness
import NodeReclaim.Proofs.Tickets
import NodeReclaim.Proofs.Stores
import NodeReclaim.Proofs.Twins
import NodeReclaim.Proofs.Fate
import NodeReclaim.Proofs.ExitStatus
import NodeReclaim.Proofs.Targets
import NodeReclaim.Proofs.Chance
import NodeReclaim.Proofs.Masking
import NodeReclaim.Proofs.DeletePaths
import NodeReclaim.Proofs.Paths
import NodeReclaim.Proofs.PublicIps
import NodeReclaim.Proofs.Children
import NodeReclaim.Proofs.Identifiers
import NodeReclaim.Proofs.SharedNames
import NodeReclaim.Proofs.Acceptance
import NodeReclaim.Proofs.NetworkOutcomes
