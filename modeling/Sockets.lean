import Sockets.Address.Basic
import Sockets.Address.Failure
import Sockets.Address.Text
import Sockets.Builder
import Sockets.Bytes
import Sockets.Config
import Sockets.Context
import Sockets.Engine.Alert
import Sockets.Engine.AltName
import Sockets.Engine.Base64
import Sockets.Engine.Certificate
import Sockets.Engine.CertificateFault
import Sockets.Engine.Client
import Sockets.Engine.ClientHello
import Sockets.Engine.Crypto.Curve
import Sockets.Engine.Crypto.Ecdsa
import Sockets.Engine.Crypto.Edwards
import Sockets.Engine.Crypto.Modular
import Sockets.Engine.Crypto.Rsa
import Sockets.Engine.Crypto.Sha2
import Sockets.Engine.Der
import Sockets.Engine.Dialogue
import Sockets.Engine.DnsPattern
import Sockets.Engine.Exchange
import Sockets.Engine.Extension
import Sockets.Engine.Fault
import Sockets.Engine.Group
import Sockets.Engine.Handshake
import Sockets.Engine.HandshakeMessage
import Sockets.Engine.HostName
import Sockets.Engine.Inbound
import Sockets.Engine.Library
import Sockets.Engine.Malformation
import Sockets.Engine.MessageType
import Sockets.Engine.NameConstraint
import Sockets.Engine.Offer
import Sockets.Engine.Path
import Sockets.Engine.Pem
import Sockets.Engine.PrivateKey
import Sockets.Engine.Reader
import Sockets.Engine.Record
import Sockets.Engine.Scheme
import Sockets.Engine.Search
import Sockets.Engine.Server
import Sockets.Engine.ServerHello
import Sockets.Engine.SignatureAlgorithm
import Sockets.Engine.Suite
import Sockets.Engine.Validity
import Sockets.Engine.Writer
import Sockets.Errno
import Sockets.Error
import Sockets.Event
import Sockets.Fault
import Sockets.Handle.Addresses
import Sockets.Handle.Basic
import Sockets.Handle.Endpoint
import Sockets.Handle.Info
import Sockets.Handle.Opening
import Sockets.Handle.Teardown
import Sockets.Handle.Transfer
import Sockets.Ip.Basic
import Sockets.Ip.Parser
import Sockets.Ip.Printer
import Sockets.Kernel.Basic
import Sockets.Kernel.Call
import Sockets.Kernel.MessageFlags
import Sockets.Kernel.Script
import Sockets.Log
import Sockets.Multicast.Interface
import Sockets.Multicast.Membership
import Sockets.Opening.Bind
import Sockets.Opening.Candidates
import Sockets.Opening.Connect
import Sockets.Resolution.Query
import Sockets.Resolution.Resolver
import Sockets.Resolution.System
import Sockets.Run.Step
import Sockets.Run.Table
import Sockets.Sctp.Header
import Sockets.Services.Lookup
import Sockets.Services.Table
import Sockets.Text.Blank
import Sockets.Text.Class
import Sockets.Text.Decimal
import Sockets.Text.Description
import Sockets.Text.Fields
import Sockets.Text.Fingerprint
import Sockets.Text.GraphemeExtend
import Sockets.Text.Ignorable
import Sockets.Text.Quoted
import Sockets.Text.Unprintable
import Sockets.Text.Utf8
import Sockets.Tls.Library
import Sockets.Tls.Negotiation
import Sockets.Tls.Provider
import Sockets.Tls.ServerName
import Sockets.Tls.Session
import Sockets.Tls.Store
import Sockets.Transport
import Sockets.World
import Sockets.Proofs.Leads
import Sockets.Proofs.Life
import Sockets.Proofs.Onward
import Sockets.Proofs.Composition
import Sockets.Proofs.Reach
import Sockets.Proofs.Talks
import Sockets.Proofs.Books
import Sockets.Proofs.Opening
import Sockets.Proofs.Groups
import Sockets.Proofs.HandleFrames
import Sockets.Proofs.Tending
import Sockets.Proofs.NewHandles
import Sockets.Proofs.Accounts
import Sockets.Proofs.Advance
import Sockets.Proofs.DescriptorLedger
import Sockets.Proofs.GroupLedger
import Sockets.Proofs.HandleShapes
import Sockets.Proofs.TeardownOrder
import Sockets.Proofs.NoPlaintext
import Sockets.Proofs.Resolution
import Sockets.Proofs.Footprints
import Sockets.Proofs.CandidateOrder
import Sockets.Proofs.SessionCalls
import Sockets.Proofs.Providers
import Sockets.Proofs.Negotiation
import Sockets.Proofs.Custody
import Sockets.Proofs.SessionSteps
import Sockets.Proofs.SessionLedger
import Sockets.Proofs.Literals
import Sockets.Proofs.HostText
import Sockets.Proofs.SideBySide
import Sockets.Proofs.Heedless
import Sockets.Proofs.Lookalikes
import Sockets.Proofs.Memos
import Sockets.Proofs.Reconnection
import Sockets.Proofs.Complaints
import Sockets.Proofs.Failures
import Sockets.Proofs.Transfers
import Sockets.Proofs.Misuse
import Sockets.Proofs.FailedReconnection
import Sockets.Proofs.SocketKinds
import Sockets.Proofs.FilesRead
import Sockets.Proofs.Aloof
import Sockets.Proofs.Keeping
import Sockets.Proofs.HeaderCodec
import Sockets.Proofs.ControlBuffer
import Sockets.Proofs.ServicePorts
import Sockets.Proofs.Timeouts
import Sockets.Proofs.PlainTransfers
import Sockets.Proofs.PeerNames
import Sockets.Proofs.Destinations
import Sockets.Proofs.StrictNames
import Sockets.Proofs.Wishes
import Sockets.Proofs.BindOptions
import Sockets.Proofs.TextOctets
import Sockets.Proofs.AddressGrammar
import Sockets.Proofs.TextLines
import Sockets.Proofs.ServiceLines
import Sockets.Proofs.FaultScripts
import Sockets.Proofs.InterfaceChoice
import Sockets.Proofs.Channels
import Sockets.Proofs.PairExchange
import Sockets.Proofs.Tables
