import ThinBasicZmq.Interaction.Reentrant
import ThinBasicZmq.Keywords.StrictTransaction
import ThinBasicZmq.Keywords.BoundedCopies
import ThinBasicZmq.Keywords.EncodeBuffer
import ThinBasicZmq.Keywords.Status
import ThinBasicZmq.Loader.CallSafety
import ThinBasicZmq.Loader.DllPath
import ThinBasicZmq.Script.Multipart
import ThinBasicZmq.Native.CurveKeys
import ThinBasicZmq.Native.SocketOptions
import ThinBasicZmq.Native.Z85Strings
import ThinBasicZmq.Script.Z85RoundTrip
import ThinBasicZmq.Keywords.Lengths
import ThinBasicZmq.Keywords.ReceivedString
import ThinBasicZmq.Interaction.Execution
import ThinBasicZmq.Loader.References
import ThinBasicZmq.Loader.LibraryInit
import ThinBasicZmq.Loader.ThinCoreReferences
import ThinBasicZmq.Interaction.Serial
import ThinBasicZmq.Keywords.Requests
import ThinBasicZmq.Loader.Hosting
import ThinBasicZmq.Loader.Serializability
import ThinBasicZmq.Loader.Accounts
import ThinBasicZmq.Loader.Registration
import ThinBasicZmq.Native.Scripts
import ThinBasicZmq.Interaction.Guarantee
import ThinBasicZmq.Keywords.Accesses
import ThinBasicZmq.Loader.MemorySafety
import ThinBasicZmq.Interaction.Parties
import ThinBasicZmq.Protocol.Turns
import ThinBasicZmq.Script.RequestReply
import ThinBasicZmq.Script.Lockstep
import ThinBasicZmq.Native.Zap
import ThinBasicZmq.Script.EmptyRequest
import ThinBasicZmq.Protocol.Broadcast
import ThinBasicZmq.Script.PubSub
import ThinBasicZmq.Script.Quotes
import ThinBasicZmq.Protocol.Pipes
import ThinBasicZmq.Script.PushPull
import ThinBasicZmq.Script.Pipeline
import ThinBasicZmq.Interaction.Triple
import ThinBasicZmq.Script.Handles
import ThinBasicZmq.Script.Examples
import ThinBasicZmq.Script.Teardown
import ThinBasicZmq.Keywords.Actions
