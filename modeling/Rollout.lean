import Rollout.Conformance
import Rollout.Connection
import Rollout.Logging.Setup
import Rollout.Machines
import Rollout.Store.Servers
import Rollout.Trust.Authority
import Rollout.Trust.EtcdAuthority
import Rollout.Proofs.Conformance.Comparison
import Rollout.Proofs.Conformance.Embedding
import Rollout.Proofs.Conformance.Revision
import Rollout.Proofs.Model.Specifications
import Rollout.Proofs.Trust.EtcdRaces
import Rollout.Proofs.Trust.EtcdSessions
import Rollout.Proofs.Version.Display
import Rollout.Proofs.Version.Semantic
import Rollout.Proofs.Conformance.Normalization
import Rollout.Proofs.Json.Grammar
import Rollout.Proofs.Version.Acceptance
import Rollout.Proofs.Tables
import Rollout.Proofs.Json.Shapes
import Rollout.Proofs.Model.Shapes
import Rollout.Proofs.Conformance.Recorded
import Rollout.Proofs.Rearrangement
import Rollout.Proofs.Store.Selection
import Rollout.Proofs.Conformance.Lineage
import Rollout.Proofs.Machines
import Rollout.Proofs.Model.Objects
import Rollout.Proofs.Trust.Keeping
import Rollout.Proofs.Labels
import Rollout.Proofs.Net.Calls
import Rollout.Proofs.Net.Form
import Rollout.Proofs.Net.Listing
import Rollout.Proofs.Store.Reach
import Rollout.Proofs.Trust.Lookups
import Rollout.Proofs.Trust.Validation
import Rollout.Proofs.Net.Connecting
import Rollout.Proofs.Settings
import Rollout.Proofs.Net.Requests
import Rollout.Proofs.Net.Replies
