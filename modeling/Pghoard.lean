import Pghoard.Runtime.Datetime
import Pghoard.Runtime.Value
import Pghoard.Runtime.Path
import Pghoard.Storage
import Pghoard.BackupInfo
import Pghoard.Restores
import Pghoard.Listing
import Pghoard.ObjectStores
import Pghoard.RestoreRuns
