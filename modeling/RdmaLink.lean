import RdmaLink.Config.Writing
import RdmaLink.Device.Workbench
import RdmaLink.Main
import RdmaLink.Memory.Calls
import RdmaLink.Proofs.Address.Text
import RdmaLink.Proofs.Completion.Fifo
import RdmaLink.Proofs.Connection.Activation
import RdmaLink.Proofs.Connection.Coherence
import RdmaLink.Proofs.Command.Reports
import RdmaLink.Proofs.Connection.Refusals
import RdmaLink.Proofs.Device.Lifetimes
import RdmaLink.Proofs.Device.Receives
import RdmaLink.Proofs.Device.Rights
import RdmaLink.Proofs.Endpoint.Attempts
import RdmaLink.Proofs.Endpoint.Binding
import RdmaLink.Proofs.Endpoint.FullBatch
import RdmaLink.Proofs.Endpoint.Handover
import RdmaLink.Proofs.Endpoint.Handshake
import RdmaLink.Proofs.Endpoint.Publication
import RdmaLink.Proofs.Endpoint.Resources
import RdmaLink.Proofs.Endpoint.Sharing
import RdmaLink.Proofs.Endpoint.Translation
import RdmaLink.Proofs.Memory.Histories
import RdmaLink.Proofs.Peers.Integrity
import RdmaLink.Proofs.Publication.Agreement
import RdmaLink.Proofs.Publication.Visibility
import RdmaLink.Proofs.QueuePair.Cutting
import RdmaLink.Proofs.QueuePair.Disclosure
import RdmaLink.Proofs.QueuePair.Failure
import RdmaLink.Proofs.QueuePair.Flushing
import RdmaLink.Proofs.QueuePair.Greeting
import RdmaLink.Proofs.QueuePair.Messages
import RdmaLink.Proofs.QueuePair.ReadSuccess
import RdmaLink.Proofs.Rendezvous.Codec
import RdmaLink.Proofs.Rendezvous.Exchange
import RdmaLink.Proofs.Rendezvous.Framing
import RdmaLink.Proofs.Rendezvous.RemoteAddresses
import RdmaLink.Text.Utf8
import RdmaLink.Proofs.Memory.FileNames
import RdmaLink.Proofs.Multiplexer.Tokens
import RdmaLink.Proofs.Config.TransportSection
import RdmaLink.Proofs.Command.Blocks
import RdmaLink.Proofs.Threads.Flushes
import RdmaLink.Proofs.Threads.Inertia
import RdmaLink.Proofs.Threads.Room
import RdmaLink.Proofs.Endpoint.PublishedFiles
