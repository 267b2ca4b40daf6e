import PageFrames.FreeList.Pair
import PageFrames.Machine
import PageFrames.Proofs.FreeList.Threads
import PageFrames.Proofs.FreeList.Walks
import PageFrames.Proofs.Pool.FreePages
import PageFrames.Proofs.Words
import PageFrames.Proofs.Pool.Balance
import PageFrames.Proofs.Pool.Chains
import PageFrames.Proofs.Pool.Taking
import PageFrames.Proofs.Pool.Runs
import PageFrames.Proofs.Pool.Allocating
import PageFrames.Proofs.Pool.Releasing
import PageFrames.Proofs.Pool.Upkeep
import PageFrames.Proofs.Pool.Effects
import PageFrames.Proofs.Allocator.Requests
import PageFrames.Proofs.Allocator.Allocations
import PageFrames.Proofs.Allocator.Contiguous
import PageFrames.Proofs.Allocator.CheckedFree
import PageFrames.Proofs.Setup
import PageFrames.Proofs.Runs
import PageFrames.Proofs.Ledger
import PageFrames.Proofs.Marking
import PageFrames.Proofs.Answers
import PageFrames.Proofs.Founding
import PageFrames.Proofs.Spaces
import PageFrames.Proofs.Bump
import PageFrames.Proofs.Machine
import PageFrames.Proofs.Protection
import PageFrames.Proofs.Allocator.Lookups
import PageFrames.Proofs.Draws
import PageFrames.Proofs.FreeList.Pairs
import PageFrames.Proofs.Pool.Sealed
import PageFrames.Proofs.Allocator.Twins
import PageFrames.Proofs.Pool.Serving
import PageFrames.Proofs.Allocator.FirstFit
import PageFrames.Proofs.Custody
import PageFrames.Proofs.RoundTrip
import PageFrames.Proofs.Allocator.Refusals
import PageFrames.Proofs.Allocator.Circuits
import PageFrames.Proofs.Overruns
import PageFrames.Proofs.Alignment
import PageFrames.Proofs.Audit
import PageFrames.Proofs.FreeList.Returns
import PageFrames.Proofs.Pool.Gathering
import PageFrames.Proofs.Pool.Rebuilding
import PageFrames.Proofs.Tags
