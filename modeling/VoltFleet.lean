import VoltFleet.Audit.Proofs.OwnText
import VoltFleet.Auth.Proofs.AssignPrivilege
import VoltFleet.Auth.Proofs.Independence
import VoltFleet.Auth.Proofs.LifeCycle
import VoltFleet.Auth.Proofs.Lists
import VoltFleet.Auth.Proofs.LockedAccounts
import VoltFleet.Auth.Proofs.ResetAtomic
import VoltFleet.Auth.Proofs.Search
import VoltFleet.Auth.Proofs.TokenKinds
import VoltFleet.Auth.RolesGuard
import VoltFleet.Cache.Proofs.AllOrNothing
import VoltFleet.Cache.Proofs.Counter
import VoltFleet.Logger.Proofs.Answers
import VoltFleet.Notification.Proofs.Delivery
import VoltFleet.Proofs.AccessLedger
import VoltFleet.Proofs.Attribution
import VoltFleet.Proofs.FailedRequests
import VoltFleet.Proofs.Links
import VoltFleet.Proofs.LostUpdates
import VoltFleet.Proofs.PageLinks
import VoltFleet.Proofs.PasswordHashes
import VoltFleet.Proofs.Provenance
import VoltFleet.Proofs.SessionKeys
import VoltFleet.Proofs.Unseen
import VoltFleet.Proofs.WellFormedAccounts
import VoltFleet.Telemetry.Proofs.Cluster
import VoltFleet.Telemetry.Proofs.Latest
import VoltFleet.Vehicle.Proofs.Deletion
import VoltFleet.Vehicle.Proofs.Lists
import VoltFleet.Vehicle.Proofs.Stored
