import SecureStream.Loopback.Network
import SecureStream.Pem.Base64.RoundTrip
import SecureStream.Tcp
import SecureStream.Transport.Exchange
import SecureStream.TransportConfig.Text
import SecureStream.Proofs.Session.Flush
import SecureStream.Proofs.Transport.OpenSockets
import SecureStream.Proofs.Transport.Exchange
import SecureStream.Proofs.Transport.Operation
import SecureStream.Proofs.Transport.Stateless
import SecureStream.Proofs.Transport.Lifecycle
import SecureStream.Proofs.Scripted
import SecureStream.Proofs.Transport.SendAccount
import SecureStream.Proofs.Transport.Delivery
import SecureStream.Proofs.Retry.Channel
import SecureStream.Proofs.Retry.Trail
import SecureStream.Proofs.Retry.Program
import SecureStream.Proofs.Retry.Trailing
import SecureStream.Proofs.Retry.Receiving
import SecureStream.Proofs.Retry.Transparency
import SecureStream.Proofs.Session.Fault
import SecureStream.Proofs.Transport.Projection
import SecureStream.Proofs.Transport.Heard
import SecureStream.Proofs.Transport.StreamEnd
import SecureStream.Proofs.Verification.NameErrors
import SecureStream.Proofs.Verification.Policy
import SecureStream.Proofs.Text.Quoted
import SecureStream.Proofs.Pem.Reading
import SecureStream.Proofs.Pem.Writing
import SecureStream.Proofs.Pem.Body
import SecureStream.Proofs.Pem.Layout
import SecureStream.Proofs.Pem.Sections
import SecureStream.Proofs.Credentials.RootBundle
import SecureStream.Proofs.Credentials.KeySelection
import SecureStream.Proofs.Credentials.KeySecrecy
import SecureStream.Proofs.Credentials.BinaryForm
import SecureStream.Proofs.Credentials.HalfIdentity
import SecureStream.Proofs.Runtime.Guards
import SecureStream.Proofs.Transport.Calls
import SecureStream.Proofs.Transport.Stages
import SecureStream.Proofs.Transport.FirstFailure
import SecureStream.Proofs.Transport.Simulation
import SecureStream.Proofs.Transport.Observed
import SecureStream.Proofs.Transport.Uses
import SecureStream.Proofs.Transport.SocketUse
import SecureStream.Proofs.Transport.Moves
import SecureStream.Proofs.Transport.Conservation
import SecureStream.Proofs.Session.HandshakeTime
import SecureStream.Proofs.Session.HandshakeHistory
import SecureStream.Proofs.Session.HandshakeStep
import SecureStream.Proofs.Session.OptionalFeatures
import SecureStream.Proofs.Transport.AlertOffer
import SecureStream.Proofs.Transport.DrySockets
import SecureStream.Proofs.Retry.Delay
import SecureStream.Proofs.Retry.HandshakeFaults
import SecureStream.Proofs.Retry.ClientFaults
import SecureStream.Proofs.Credentials.Failures
import SecureStream.Proofs.Session.Requirements
import SecureStream.Proofs.Transport.Outcomes
import SecureStream.Proofs.Metrics.Postings
import SecureStream.Proofs.Metrics.Fleet
import SecureStream.Proofs.Transport.Diagnostics
import SecureStream.Proofs.Transport.Receipts
import SecureStream.Proofs.TransportConfig.Documents
import SecureStream.Proofs.Verification.SuiteB
import SecureStream.Proofs.Der.Framing
import SecureStream.Proofs.Session.HandshakeBudget
