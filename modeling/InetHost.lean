import InetHost.Address.Form
import InetHost.Host.Session
import InetHost.Proofs.Buffer.Fifo
import InetHost.Proofs.Buffer.Window
import InetHost.Proofs.Exchange.Corruption
import InetHost.Proofs.Exchange.Datagram
import InetHost.Proofs.Exchange.Echo
import InetHost.Proofs.Exchange.Egress
import InetHost.Proofs.Exchange.Hearsay
import InetHost.Proofs.Exchange.Notification
import InetHost.Proofs.Exchange.Padding
import InetHost.Proofs.Exchange.Ping
import InetHost.Proofs.Exchange.Resolution
import InetHost.Proofs.Exchange.Silence
import InetHost.Proofs.Exchange.Sizes
import InetHost.Proofs.Frame.Offers
import InetHost.Proofs.Frame.Seal
import InetHost.Proofs.Queue.Deferral
import InetHost.Proofs.Queue.Delivery
import InetHost.Proofs.Queue.Discipline
import InetHost.Proofs.Queue.Progress
import InetHost.Proofs.Stream.Acknowledgement
import InetHost.Proofs.Stream.Admission
import InetHost.Proofs.Stream.Closing
import InetHost.Proofs.Stream.FinWait
import InetHost.Proofs.Stream.Independence
import InetHost.Proofs.Stream.Lifecycle
import InetHost.Proofs.Stream.Opening
import InetHost.Proofs.Stream.Parting
import InetHost.Proofs.Stream.Requests
import InetHost.Proofs.Stream.Window
