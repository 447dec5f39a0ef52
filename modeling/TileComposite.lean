import TileComposite.Main
import TileComposite.Plate.Fault
import TileComposite.Proofs.Plate.Replies
import TileComposite.Proofs.Plate.History
import TileComposite.Proofs.Plate.Transactions
import TileComposite.Proofs.Plate.Exchanges
import TileComposite.Proofs.Aggregate.Cells
import TileComposite.Proofs.Aggregate.Runs
import TileComposite.Proofs.Aggregate.Passes
import TileComposite.Proofs.Aggregate.Interruption
import TileComposite.Proofs.Aggregate.Conduct
import TileComposite.Proofs.Grid.Enumeration
import TileComposite.Proofs.Grid.Cover
import TileComposite.Proofs.Grid.Shares
import TileComposite.Proofs.Grid.Deal
import TileComposite.Proofs.Job.Fit
import TileComposite.Proofs.Job.Outcome
import TileComposite.Proofs.Job.Split
import TileComposite.Proofs.Job.Resumption
import TileComposite.Proofs.Aggregate.Pursuit
import TileComposite.Proofs.Job.Cooperation
import TileComposite.Proofs.Number.Nearest
import TileComposite.Proofs.Number.Rounding
import TileComposite.Proofs.Pixel.Whole
import TileComposite.Proofs.Composite.Exact
import TileComposite.Proofs.Aggregate.Blocked
import TileComposite.Proofs.Job.Refusal
import TileComposite.Proofs.CommandLine.Overrides
import TileComposite.Proofs.CommandLine.Status
import TileComposite.Proofs.Number.Accumulation
import TileComposite.Proofs.Pixel.Widening
import TileComposite.Proofs.Composite.Samples
import TileComposite.Proofs.Composite.Weightless
import TileComposite.Proofs.Composite.Alone
import TileComposite.Proofs.Composite.Between
import TileComposite.Proofs.Aggregate.Reduction
import TileComposite.Proofs.Grid.Positions
import TileComposite.Proofs.Plate.Searches
import TileComposite.Proofs.Plate.Moments
import TileComposite.Proofs.Aggregate.Reports
import TileComposite.Proofs.Aggregate.Obstructed
import TileComposite.Proofs.Grid.Turns
import TileComposite.Proofs.Pixel.Reading
import TileComposite.Proofs.Job.Mappings
import TileComposite.Proofs.Job.Sections
import TileComposite.Proofs.Plate.Backends
import TileComposite.Proofs.CommandLine.Spelled
import TileComposite.Proofs.Pixel.Saturation
import TileComposite.Proofs.Message
