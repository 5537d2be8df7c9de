import LimaSpice.Go.Strings
import LimaSpice.Client.Connection
import LimaSpice.Client.Uri
import LimaSpice.Client.Viewer
import LimaSpice.GuestAgent.Guest
import LimaSpice.GuestAgent.Status
import LimaSpice.GuestAgent.Supervisor
import LimaSpice.GuestAgent.Display
import LimaSpice.GuestAgent.Healing
import LimaSpice.Limatype
import LimaSpice.Limactl.ShowGui
import LimaSpice.Vz.Driver
import LimaSpice.Store.GuiInfo
