import Mailout.Go.Utf8
import Mailout.Go.Unicode
import Mailout.Go.Strings
import Mailout.Go.Comp
import Mailout.Policy
import Mailout.Access
import Mailout.Message
import Mailout.Spool
import Mailout.HeaderFrom
import Mailout.Mailbox
import Mailout.Transaction
import Mailout.Alarm
import Mailout.Peers
import Mailout.Milter
import Mailout.Relay
import Mailout.Go.Process
import Mailout.Go.Strconv
import Mailout.Quota
import Mailout.Replicas
import Mailout.Dkim
import Mailout.Account
import Mailout.Snapshot
import Mailout.Session
import Mailout.Vouching
import Mailout.Connection
import Mailout.Revocation
import Mailout.Controller
import Mailout.Rewriting
import Mailout.FailOpen
import Mailout.Chain
import Mailout.Renewal
import Mailout.Ownership
import Mailout.DiskFailure
import Mailout.Dataplane
import Mailout.Server
import Mailout.Render
import Mailout.Restart
import Mailout.AccountController
import Mailout.AccountWebhook
import Mailout.Rotation
import Mailout.GatewayWebhook
import Mailout.Go.Refine
import Mailout.Letter
import Mailout.Memory
import Mailout.Storage
import Mailout.Independence
import Mailout.Received
import Mailout.Identity
import Mailout.Fit
import Mailout.GatewayController
import Mailout.Envelope
import Mailout.Modifications
import Mailout.Rights
import Mailout.Certificates
import Mailout.Counting
import Mailout.ByteSequence
import Mailout.Outcomes
import Mailout.Go.Scan
import Mailout.Workload
import Mailout.Go.Duration
import Mailout.Go.Json
import Mailout.Go.Observe
import Mailout.Encoding
import Mailout.Source
import Mailout.Watch
import Mailout.Go.Informer
import Mailout.Operator
import Mailout.Delivery
