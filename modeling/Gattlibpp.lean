import Gattlibpp.Queue.Completion
import Gattlibpp.Connection.Events
import Gattlibpp.Connection.Supply
import Gattlibpp.Discovery.Lookup
import Gattlibpp.Discovery.Success
import Gattlibpp.Pipeline.Results
import Gattlibpp.Leave.Ticks
import Gattlibpp.Report.Callable
import Gattlibpp.Notify.Delivery
import Gattlibpp.Notify.Books
import Gattlibpp.Quiet.Returns
import Gattlibpp.Quiet.Locks
import Gattlibpp.Scan.Through
import Gattlibpp.Scan.Connected
import Gattlibpp.Connection.Failed
import Gattlibpp.Discovery.Listed
import Gattlibpp.Notify.StopAll
import Gattlibpp.Notify.Counter
import Gattlibpp.Case.Runs
import Gattlibpp.Notify.Reconnected
import Gattlibpp.Ledger.Results
import Gattlibpp.Fault.Never
import Gattlibpp.Central.Latest
