import Lldebug.Net.Command
import Lldebug.Net.SocketBase
import Lldebug.Net.Pipe
import Lldebug.Net.Delivery
import Lldebug.Net.OneWrite
import Lldebug.Net.RemoteEngine
import Lldebug.Net.Api
import Lldebug.Net.Session
import Lldebug.Net.CtxId
import Lldebug.Net.Framed
import Lldebug.Net.CommandId
import Lldebug.Net.Correlation
import Lldebug.Net.ReadQueue
import Lldebug.Net.Connection
import Lldebug.Net.Progress
import Lldebug.Net.Failure
import Lldebug.Net.FrameSocket
import Lldebug.Net.ContextSocket
import Lldebug.Net.ServiceThread
import Lldebug.SourceView
import Lldebug.SourceMarkers
