import NodePki.Authority
import NodePki.Bytes
import NodePki.Command.Ensure
import NodePki.Command.Fault
import NodePki.Command.Inspect
import NodePki.CommandLine.Flag
import NodePki.CommandLine.Invocation
import NodePki.CommandLine.LabelOption
import NodePki.CommandLine.Run
import NodePki.Concurrent
import NodePki.Config
import NodePki.Crypto.Curve
import NodePki.Crypto.Ecdsa
import NodePki.Crypto.Ed25519
import NodePki.Crypto.Modular
import NodePki.Crypto.PrivateKey
import NodePki.Crypto.Rsa
import NodePki.Crypto.Sha2
import NodePki.Data.Dict
import NodePki.Der.Error
import NodePki.Der.Oid
import NodePki.Der.Reader
import NodePki.Der.Tag
import NodePki.Der.Writer
import NodePki.Encoding.Base64
import NodePki.Encoding.Hex
import NodePki.Encoding.Pem
import NodePki.Ensure
import NodePki.Error
import NodePki.Identity
import NodePki.Json.Basic
import NodePki.Json.Parser
import NodePki.Json.Printer
import NodePki.Json.Settled
import NodePki.Kube.Api
import NodePki.Kube.Codec
import NodePki.Kube.Failure
import NodePki.Kube.Object
import NodePki.Kube.Schema.Basic
import NodePki.Kube.Schema.Container
import NodePki.Kube.Schema.Metadata
import NodePki.Kube.Schema.Pod
import NodePki.Kube.Schema.Service
import NodePki.Kube.Schema.Volume
import NodePki.Log.Event
import NodePki.Log.Filter
import NodePki.Log.Pattern
import NodePki.Log.Subscriber
import NodePki.Main
import NodePki.Net.IpAddress
import NodePki.Net.IpText
import NodePki.Program.Basic
import NodePki.Program.Surroundings
import NodePki.Proofs.Program.Interleaving
import NodePki.Proofs.Program.Run
import NodePki.Proofs.Store.Memory
import NodePki.Proofs.Store.Pool
import NodePki.Retry
import NodePki.San.GeneralName
import NodePki.San.Reader
import NodePki.Secret.Content
import NodePki.Secret.Name
import NodePki.Simulation.Machine
import NodePki.Simulation.Server
import NodePki.Store.Basic
import NodePki.Store.Cluster
import NodePki.Store.Memory
import NodePki.Summary
import NodePki.Template
import NodePki.Text.Alphanumeric
import NodePki.Text.Quoted
import NodePki.Text.Split
import NodePki.Text.Unprintable
import NodePki.Text.Utf8
import NodePki.Text.Utf8.Lemmas
import NodePki.Time.Civil
import NodePki.Time.Duration
import NodePki.Time.Instant
import NodePki.Time.Timestamp
import NodePki.X509.AlternativeName
import NodePki.X509.Certificate
import NodePki.X509.DistinguishedName
import NodePki.X509.Element
import NodePki.X509.Name
import NodePki.X509.ShortName
import NodePki.X509.Time
import NodePki.X509.Unsigned
import NodePki.X509.Usable
import NodePki.X509.Renewal
import NodePki.Proofs.Ensure.NodeSecret
import NodePki.Proofs.Secret.Content
import NodePki.Proofs.Ensure.ExactlyOnce
import NodePki.Proofs.Ensure.Basic
import NodePki.Proofs.Ensure.Authority
import NodePki.Proofs.Ensure.TrustRoot
import NodePki.Proofs.Ensure.PodIsolation
import NodePki.Proofs.Program.Retry
import NodePki.Proofs.Store.Cluster
import NodePki.Proofs.Ensure.AtMostOnce
import NodePki.Proofs.Bytes
import NodePki.Proofs.Der.Value
import NodePki.Proofs.Der.Oid
import NodePki.Proofs.Der.Reader
import NodePki.Proofs.San.Grammar
import NodePki.Proofs.San.RoundTrip
import NodePki.Proofs.Time.Civil
import NodePki.Proofs.X509.Element
import NodePki.Proofs.X509.Time
import NodePki.Proofs.X509.Certificate
import NodePki.Proofs.X509.AlternativeName
import NodePki.Proofs.Summary
import NodePki.Proofs.ReadBack
import NodePki.Proofs.Ensure.Frame
import NodePki.Proofs.Ensure.TypeIsolation
import NodePki.Proofs.Encoding.Base64
import NodePki.Proofs.Encoding.Pem
import NodePki.Proofs.Crypto.PrivateKey
import NodePki.Proofs.X509.Size
import NodePki.Proofs.Authority
import NodePki.Proofs.Ensure.Convergence
import NodePki.Proofs.Ensure.ClusterIsolation
import NodePki.Proofs.Text.Split
import NodePki.Proofs.Identity
import NodePki.Proofs.Secret.Subdomain
import NodePki.Proofs.Secret.LegalName
import NodePki.Proofs.Ensure.SystemLabels
import NodePki.Proofs.AuthorityKey
import NodePki.Proofs.Ensure.AuthorityKey
import NodePki.Proofs.Secret.Separation
import NodePki.Proofs.Program.Interpret
import NodePki.Proofs.Program.Lockstep
import NodePki.Proofs.Ensure.Plan
import NodePki.Proofs.Ensure.Protocol
import NodePki.Proofs.Ensure.Secrecy
import NodePki.Proofs.Ensure.Material
import NodePki.Proofs.Template.Faults
import NodePki.Proofs.Config
import NodePki.Proofs.Validity
import NodePki.Proofs.Program.Attempts
import NodePki.Proofs.Command.Ensure
import NodePki.Proofs.Command.DryRun
import NodePki.Proofs.Command.Attempts
import NodePki.Proofs.Program.Course
import NodePki.Proofs.Program.Budget
import NodePki.Proofs.Der.Cut
import NodePki.Proofs.San.Cut
import NodePki.Proofs.San.Inspection
import NodePki.Proofs.San.Omission
import NodePki.Proofs.Encoding.Bundle
import NodePki.Proofs.Chain
import NodePki.Proofs.Ensure.Idempotence
import NodePki.Proofs.Store.Uses
import NodePki.Proofs.CommandLine.Label
import NodePki.Proofs.Command.Labels
import NodePki.Proofs.Secret.NormalForm
