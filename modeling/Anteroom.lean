import Anteroom.Main
import Anteroom.Relay
import Anteroom.Proofs.Forwarding
import Anteroom.Proofs.Shutdown
import Anteroom.Proofs.Abandonment
import Anteroom.Proofs.Order
import Anteroom.Proofs.Timeouts
import Anteroom.Proofs.Probing
import Anteroom.Proofs.ReadLoop
import Anteroom.Proofs.Traceless
import Anteroom.Proofs.RoundTrip
import Anteroom.Proofs.Grammar
import Anteroom.Proofs.Replies
import Anteroom.Proofs.Hijacks
import Anteroom.Proofs.Writers
import Anteroom.Proofs.Handles
import Anteroom.Proofs.Inbox
import Anteroom.Proofs.Overrides
import Anteroom.Proofs.Echoes
import Anteroom.Proofs.Skipping
import Anteroom.Proofs.Handshakes
import Anteroom.Proofs.Truncation
import Anteroom.Proofs.Respelling
import Anteroom.Proofs.Framing
import Anteroom.Proofs.Descriptors
import Anteroom.Proofs.Sweeps
import Anteroom.Proofs.Outbound
import Anteroom.Proofs.Validation
import Anteroom.Proofs.Families
import Anteroom.Proofs.Fitting
import Anteroom.Proofs.Pacing
