import SignOn.Proofs.Ace.HostNames
import SignOn.Proofs.Ace.Ports
import SignOn.Proofs.Dns.Denials
import SignOn.Proofs.Dns.Discovery
import SignOn.Proofs.Enrichment.Explicit
import SignOn.Proofs.Gss.Sources
import SignOn.Proofs.Handshake.Words
import SignOn.Proofs.Login.Lookups
import SignOn.Proofs.Machine.Secrecy
import SignOn.Proofs.Profile.Continuing
import SignOn.Proofs.Profile.Documents
import SignOn.Proofs.Profile.RealmNames
import SignOn.Proofs.Profile.Rendering
import SignOn.Proofs.Realm.Inquiries
import SignOn.Proofs.Realm.LetterCase
import SignOn.Proofs.Realm.Lifetimes
import SignOn.Proofs.Realm.Overlap
import SignOn.Proofs.Realm.Precedence
import SignOn.Proofs.ServiceName.AsciiForm
import SignOn.Proofs.ServiceName.Decomposition
import SignOn.Proofs.ServiceName.NormalForm
import SignOn.Proofs.Session.Agreement
import SignOn.Proofs.Session.ByDefault
import SignOn.Proofs.Session.Discretion
import SignOn.Proofs.Session.Failure
import SignOn.Proofs.Session.Logins
import SignOn.Proofs.Session.Scope
import SignOn.Proofs.Session.Transcript
import SignOn.Proofs.Settings.Properties
