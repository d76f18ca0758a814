import Acme.Main
import Acme.Proofs.Activation
import Acme.Proofs.CertificateRequest
import Acme.Proofs.CertificateRequest.Pkcs10
import Acme.Proofs.CertificateRequest.Usable
import Acme.Proofs.Client.Refill
import Acme.Proofs.Issue
import Acme.Proofs.LinkHeader
import Acme.Proofs.LinkHeader.Entries
import Acme.Proofs.Nonce
import Acme.Proofs.Pem
import Acme.Proofs.Pem.Lines
import Acme.Proofs.Polling
import Acme.Proofs.Program
import Acme.Proofs.Rsa.Encoding
import Acme.Proofs.Rsa.Roots
import Acme.Proofs.Rsa.Text
import Acme.Proofs.Run.Accepted
import Acme.Proofs.Run.AccountKey
import Acme.Proofs.Run.Applying
import Acme.Proofs.Run.Continuity
import Acme.Proofs.Run.Destination
import Acme.Proofs.Run.Exposure
import Acme.Proofs.Run.Halting
import Acme.Proofs.Run.Independence
import Acme.Proofs.Run.Language
import Acme.Proofs.Run.Loops
import Acme.Proofs.Run.Nonceless
import Acme.Proofs.Run.Outputs
import Acme.Proofs.Run.Patience
import Acme.Proofs.Run.Phases
import Acme.Proofs.Run.Protocol
import Acme.Proofs.Run.Provenance
import Acme.Proofs.Run.Signing
import Acme.Proofs.Run.Success
import Acme.Proofs.Secrecy
import Acme.Proofs.Session.Visitors
import Acme.Proofs.SignedRequest
import Acme.Proofs.Text.CommaSeparated
import Acme.Proofs.UrlSafe
