import Blink.IndexedDB.CursorImpl
import Blink.IndexedDB.PrefetchWindow
import Blink.IndexedDB.Session
import Blink.IndexedDB.PrefetchProtocol
import Blink.IndexedDB.Transparency
import Blink.IndexedDB.Dispatcher
import Blink.Inspector.DOMTree
import Blink.Inspector.DOMDebuggerAgent
import Blink.Inspector.Page
import Blink.Inspector.Enabled
import Blink.Inspector.SubtreeBits
import Blink.Inspector.MaskInvariant
import Blink.Inspector.BreakpointOwner
import Blink.Inspector.SubtreeErasure
import Blink.Inspector.EventListenerBreakpoints
import Blink.Inspector.XHRBreakpoints
import Blink.Inspector.NativeEvents
import Blink.PushMessaging.SubscriptionOptions
import Blink.SVG.RadialGradient
import Blink.Graphics.BitmapImage
import Blink.Bindings.ActiveScriptWrappableManager
