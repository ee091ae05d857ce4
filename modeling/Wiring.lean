import Wiring.Bench.Perform
import Wiring.Bench.Trials
import Wiring.Bench.Values
import Wiring.Catalog
import Wiring.Module
import Wiring.Proofs.Availability
import Wiring.Proofs.Compliance
import Wiring.Proofs.Confinement
import Wiring.Proofs.Contract
import Wiring.Proofs.Deferred
import Wiring.Proofs.Exactness
import Wiring.Proofs.History
import Wiring.Proofs.Nesting
import Wiring.Proofs.Notebook
import Wiring.Proofs.Optionality
import Wiring.Proofs.Preparation
import Wiring.Proofs.Requests
import Wiring.Proofs.Stages
import Wiring.Proofs.Termination
import Wiring.Registry
import Wiring.Run
import Wiring.Settings.Sources
import Wiring.Text.Blank
import Wiring.Text.Letter
import Wiring.World
import Wiring.Proofs.Keeping
import Wiring.Proofs.Sites
import Wiring.Proofs.Typing
import Wiring.Proofs.Soundness
import Wiring.Proofs.Blame
import Wiring.Proofs.Depth
import Wiring.Proofs.Locality
import Wiring.Proofs.Variation
import Wiring.Proofs.Concord
import Wiring.Proofs.Growth
import Wiring.Proofs.Constancy
import Wiring.Proofs.Ahead
import Wiring.Proofs.Operations
import Wiring.Proofs.Retelling
import Wiring.Proofs.Precedence
import Wiring.Proofs.Statics
import Wiring.Proofs.Caching
import Wiring.Proofs.Interchange
import Wiring.Proofs.Order
import Wiring.Proofs.Injection
import Wiring.Proofs.Points
import Wiring.Proofs.Monotonicity
import Wiring.Proofs.Stability
import Wiring.Proofs.Constructors
import Wiring.Proofs.Sorting
import Wiring.Proofs.Overrides
import Wiring.Proofs.Foreign
import Wiring.Proofs.Licence
import Wiring.Proofs.Launches
import Wiring.Proofs.Reads
import Wiring.Proofs.ShortNames
