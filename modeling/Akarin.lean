import Akarin.Memory.VmoCow
import Akarin.Memory.VmoIsolation
import Akarin.Objects.Binding
import Akarin.Objects.Tokens
import Akarin.Objects.Anonymous
import Akarin.Objects.Staleness
import Akarin.Arch.CachePolicy
import Akarin.Objects.Orphans
import Akarin.Objects.Sticky
import Akarin.Ipc.Fanout
import Akarin.Ipc.PortIdentity
import Akarin.Ipc.Fifo
import Akarin.Ipc.Transfer
import Akarin.Ipc.ReceiveErrors
import Akarin.Service.Conservation
import Akarin.Service.PagerCoalescing
import Akarin.Service.PagerPages
import Akarin.Arch.PageMap
import Akarin.Sched.Selection
import Akarin.Sched.Wakeup
import Akarin.Sched.Cancellation
import Akarin.Sched.Creation
import Akarin.Runtime.FutexKeys
import Akarin.Sync.MpmcLaw
import Akarin.Sync.RwLock
import Akarin.Heap.EarlyRuns
import Akarin.Heap.Safety
import Akarin.Heap.Blocks
import Akarin.Interrupt.MessageBlock
import Akarin.Interrupt.Reconfigure
