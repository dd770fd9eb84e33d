import Courier.Expectation
import Courier.Fake
import Courier.Policies
import Courier.Script
import Courier.Service.Middleware
import Courier.Session
import Courier.Wire.Transport
import Courier.Proofs.Runs
import Courier.Proofs.Effects
import Courier.Proofs.Interleaving
import Courier.Proofs.Rounds
import Courier.Proofs.Retrying
import Courier.Proofs.Boundary
import Courier.Proofs.Rebuilding
import Courier.Proofs.Modes
import Courier.Proofs.Quiet
import Courier.Proofs.Announcing
import Courier.Proofs.Answering
import Courier.Proofs.Exchanges
import Courier.Proofs.Independence
import Courier.Proofs.Confinement
import Courier.Proofs.Queues
import Courier.Proofs.Batches
import Courier.Proofs.Steps
import Courier.Proofs.Windows
import Courier.Proofs.Snapshots
import Courier.Proofs.Shadowing
import Courier.Proofs.Raising
import Courier.Proofs.Muting
import Courier.Proofs.Stacking
import Courier.Proofs.Observing
import Courier.Proofs.Maps
import Courier.Proofs.ReadingBack.Utf8
import Courier.Proofs.ReadingBack.Form
import Courier.Proofs.ReadingBack.Token
import Courier.Proofs.Spellings
import Courier.Proofs.Labels
import Courier.Proofs.ReadingBack.Json
import Courier.Proofs.Carrying
import Courier.Proofs.Selecting
import Courier.Proofs.Querying
import Courier.Proofs.Redirecting
import Courier.Proofs.Reshaping
import Courier.Proofs.Credentials
import Courier.Proofs.Clearing
import Courier.Proofs.Together
import Courier.Proofs.Ordering
import Courier.Proofs.Globbing
import Courier.Proofs.Redacting
import Courier.Proofs.Merging
import Courier.Proofs.Overwriting
import Courier.Proofs.Expanding
import Courier.Proofs.Escaping
import Courier.Proofs.ReadingBack.Multipart
import Courier.Proofs.Naming
import Courier.Proofs.Appending
import Courier.Proofs.Reacting
import Courier.Proofs.Mapping
import Courier.Proofs.Locality
import Courier.Proofs.Trailing
import Courier.Proofs.Endings
import Courier.Proofs.Attaching
import Courier.Proofs.Reporting
import Courier.Proofs.Summarizing
import Courier.Proofs.ReadingBack.Cookies
import Courier.Proofs.Presets
import Courier.Proofs.Filling
import Courier.Proofs.Numbering
import Courier.Proofs.Bases
import Courier.Proofs.Visibility
import Courier.Proofs.Paths
import Courier.Proofs.Readiness
