import InfinibandCheck.Types
import InfinibandCheck.Json
import InfinibandCheck.Thresholds
import InfinibandCheck.Record
import InfinibandCheck.PortDrop
import InfinibandCheck.PortFlap
import InfinibandCheck.Check
import InfinibandCheck.Analyzers
import InfinibandCheck.Run
import InfinibandCheck.History
import InfinibandCheck.Health
