import Guicpp.Types
import Guicpp.At
import Guicpp.Table
import Guicpp.Entries
import Guicpp.InjectUtil
import Guicpp.Hoare
import Guicpp.Singleton
import Guicpp.Resolve
import Guicpp.Configure
import Guicpp.Tools
import Guicpp.KeyGraph
import Guicpp.Threading
import Guicpp.ScopeInvariant
import Guicpp.Wiring
import Guicpp.Termination
import Guicpp.SingletonScope
import Guicpp.Teardown
import Guicpp.Bindings
import Guicpp.Reorder
import Guicpp.TypeIds
