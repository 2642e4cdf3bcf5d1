import Gatehouse.Faults
import Gatehouse.Http.Address
import Gatehouse.Http.Connection
import Gatehouse.Main
import Gatehouse.Proofs.Administration
import Gatehouse.Proofs.Confinement
import Gatehouse.Proofs.Deactivation
import Gatehouse.Proofs.ErrorFormat
import Gatehouse.Proofs.HighestRole
import Gatehouse.Proofs.Lifecycle
import Gatehouse.Proofs.LockHolders
import Gatehouse.Proofs.Opacity
import Gatehouse.Proofs.RefreshHistory
import Gatehouse.Proofs.Serializability
import Gatehouse.Proofs.Staleness
import Gatehouse.Proofs.Sweepers
import Gatehouse.Proofs.Token
import Gatehouse.Proofs.Transparency
import Gatehouse.Provider
import Gatehouse.Sql.Schema
import Gatehouse.Sql.World
import Gatehouse.Text.Blank
import Gatehouse.Text.Cut
import Gatehouse.Timeline
import Gatehouse.World
import Gatehouse.Proofs.SharedEntries
import Gatehouse.Proofs.SweepReports
import Gatehouse.Proofs.StaffSignIn
import Gatehouse.Proofs.Passwords
import Gatehouse.Proofs.CustomerSignIn
import Gatehouse.Proofs.SweepExactness
import Gatehouse.Proofs.Sql.Meaning
import Gatehouse.Proofs.Sql.Sessions
import Gatehouse.Proofs.Sql.Agreement
import Gatehouse.Proofs.Binary64
import Gatehouse.Proofs.Sql.Intervals
import Gatehouse.Proofs.Expiry
import Gatehouse.Proofs.CacheRepair
import Gatehouse.Proofs.CustomerAuthority
import Gatehouse.Proofs.UsableTokens
import Gatehouse.Proofs.Lifetimes
import Gatehouse.Proofs.Sql.Addresses
import Gatehouse.Proofs.Sql.Grants
import Gatehouse.Proofs.Enrolment
import Gatehouse.Proofs.Command.Sweeping
