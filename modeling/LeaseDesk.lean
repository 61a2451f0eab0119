import LeaseDesk.Http.Server
import LeaseDesk.License.Client
import LeaseDesk.Proofs.Addressing
import LeaseDesk.Proofs.Agreement
import LeaseDesk.Proofs.Clearance
import LeaseDesk.Proofs.Custody
import LeaseDesk.Proofs.DateRoundTrip
import LeaseDesk.Proofs.Departure
import LeaseDesk.Proofs.Discretion
import LeaseDesk.Proofs.Dismissal
import LeaseDesk.Proofs.Enrolment
import LeaseDesk.Proofs.Footprint
import LeaseDesk.Proofs.Grounds
import LeaseDesk.Proofs.HandingOut
import LeaseDesk.Proofs.Interleaving
import LeaseDesk.Proofs.Licensing
import LeaseDesk.Proofs.Listings
import LeaseDesk.Proofs.Overlap
import LeaseDesk.Proofs.Overtaking
import LeaseDesk.Proofs.Periods
import LeaseDesk.Proofs.Permanence
import LeaseDesk.Proofs.Recognition
import LeaseDesk.Proofs.Release
import LeaseDesk.Proofs.Reticence
import LeaseDesk.Proofs.Serving
import LeaseDesk.Proofs.Signing
import LeaseDesk.Proofs.Submission
import LeaseDesk.Settings.Basic
import LeaseDesk.Sql.Connection
