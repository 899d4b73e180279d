import RelayConnector.Words
import RelayConnector.Control
import RelayConnector.Packets
import RelayConnector.Fence
import RelayConnector.Generations
import RelayConnector.Expiry
import RelayConnector.Exposure
import RelayConnector.Accounting
import RelayConnector.Cutoff
import RelayConnector.Receipts
import RelayConnector.RoundTrip
import RelayConnector.Confidentiality
import RelayConnector.Interleavings
import RelayConnector.Custody
import RelayConnector.Timestamps
import RelayConnector.StunResponse
import RelayConnector.WireFormat
import RelayConnector.Tunnel
import RelayConnector.Rotation
import RelayConnector.Handshake
import RelayConnector.Offer
import RelayConnector.Credentials
import RelayConnector.Exclusions
import RelayConnector.Endpoints
import RelayConnector.Failures
import RelayConnector.Delivery
import RelayConnector.Draining
import RelayConnector.Shutdown
import RelayConnector.Latency
import RelayConnector.RtcAccounting
import RelayConnector.Watchdog
import RelayConnector.Startup
import RelayConnector.Completeness
