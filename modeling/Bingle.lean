import Bingle.Dapp.Revocation
import Bingle.Dapp.Migration
import Bingle.Mutex.Exclusion
import Bingle.Frpt.Delivery
import Bingle.Frpt.Restart
import Bingle.Identity.Binding
import Bingle.Ddb.Load
import Bingle.Messages.Context
import Bingle.Dtls.Cleanup
import Bingle.Incoming.OneCopy
import Bingle.Outgoing.Scheduler
import Bingle.Registration.Binding
import Bingle.Turn.Tables
import Bingle.Chat.Receive
import Bingle.Ddb.Authentic
import Bingle.Frpt.Dispatch
import Bingle.Local.OwnHandle
import Bingle.Dtls.Repeated
import Bingle.Mutex.Acknowledged
import Bingle.Outgoing.Progress
import Bingle.Dapp.EndpointText
import Bingle.Dapp.Lineage
import Bingle.Dapp.Reserve
import Bingle.Dapp.Upgrade
import Bingle.Engine.Requests
import Bingle.Frpt.Accounting
import Bingle.Frpt.Codec
import Bingle.Handle.Search
import Bingle.Mutex.Leases
import Bingle.Ddb.Ripple
import Bingle.Ddb.Sweep
import Bingle.Ddb.Eviction
import Bingle.Ddb.Csv
import Bingle.Ddb.Answers
import Bingle.Turn.ChannelData
import Bingle.Engine.Debounce
import Bingle.Wire.AppField
import Bingle.Messages.Panics
import Bingle.Stun.Silence
import Bingle.Relay.Health
import Bingle.NetDet.Depth
import Bingle.Dapp.Sidewinder
import Bingle.Outgoing.Routes
import Bingle.Outgoing.Accounting
import Bingle.Outgoing.Status
import Bingle.Incoming.Reading
import Bingle.Registration.Retries
import Bingle.Wire.JsiMessage
import Bingle.Dapp.Price
