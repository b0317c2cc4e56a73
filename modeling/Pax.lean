import Pax.Core.Event
import Pax.Framework.Lts
import Pax.Framework.FileSystem
import Pax.Framework.Bytes
import Pax.Framework.Segments
import Pax.Framework.Framing
import Pax.Framework.Utf16
import Pax.Framework.Chunking
import Pax.Transport.Android.ObexDecode
import Pax.Hci.Spoof
import Pax.Hci.Replies
import Pax.Transport.BlueZ.Address
import Pax.Diagnostics.ArrivalOrder
import Pax.Pairing.Batch
import Pax.Pairing.Refusal
import Pax.Transport.BlueZ.Staging
import Pax.Transport.BlueZ.Completion
import Pax.Transfer.Delivery
import Pax.Framework.Program
import Pax.Framework.Pool
import Pax.Framework.Publication
import Pax.Framework.Numbering
import Pax.Transport.Mock.Links
import Pax.Transport.ObserverOrder
import Pax.Transport.Mock.Pairing
import Pax.Transport.Mock.Sessions
import Pax.Transfer.Session
import Pax.Transfer.Accounting
import Pax.Transport.BlueZ.Inbound
import Pax.Transport.Brackets
import Pax.Transfer.Progress
import Pax.Framework.Text
import Pax.Framework.HexPairs
import Pax.Core.AddressText
import Pax.Core.UuidForms
import Pax.Cli.HexPayload
import Pax.Diagnostics.Buckets
import Pax.Transport.Android.ScanLine
import Pax.Transport.BlueZ.Wpa
import Pax.Transport.Android.Inquiry
import Pax.Framework.Indifference
import Pax.Framework.Concurrently
import Pax.Pairing.Session
import Pax.Transport.Mock.Secrecy
import Pax.Framework.Increases
import Pax.Transport.ChunkSizes
import Pax.Transport.Android.ObexSizes
import Pax.Transport.Android.ObexCourse
import Pax.Transfer.MidFlight
import Pax.Transport.ProgressAccounting
import Pax.Framework.Selection
import Pax.Transport.Mock.InboundCap
import Pax.Framework.Merging
import Pax.Transport.Android.Discover
import Pax.Transport.DiscoverAlike
import Pax.Transport.Mock.LinkState
import Pax.Transport.Mock.PushAccount
import Pax.Transfer.Course
import Pax.Pairing.Attempts
import Pax.Cli.Gatt
import Pax.Transport.BlueZ.Visibility
import Pax.Pairing.Spoofing
import Pax.Transfer.LinkRelease
import Pax.Transport.Mock.Linearizable
import Pax.Pairing.Determined
import Pax.Transport.Mock.Agents
import Pax.Transfer.Isolation
import Pax.Transport.BlueZ.PortAuth
import Pax.Transport.ScanReport
import Pax.Pairing.Reported
import Pax.Cli.Main
import Pax.Cli.Honest
import Pax.Cli.GattRadio
import Pax.Diagnostics.Recorder
