import Kbcli.Go.Strings
import Kbcli.Types
import Kbcli.Cluster.EditBackupPolicy
import Kbcli.Cluster.EditApply
import Kbcli.Cluster.EditRoundtrip
import Kbcli.Cluster.CreateBackup
import Kbcli.Cluster.BackupGate
import Kbcli.Cluster.DescribeBackupPolicy
import Kbcli.Cluster.DescribeBackup
import Kbcli.Cluster.ListBackup
import Kbcli.Cluster.OpsRequest
import Kbcli.Template.MockClient
import Kbcli.Template.MockIndexes
import Kbcli.Template.MockCalls
import Kbcli.Accounts.Base
import Kbcli.Action.Delete
import Kbcli.Util.Version
