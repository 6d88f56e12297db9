import GoPhat.Phatlog
import GoPhat.VR.Defs
import GoPhat.VR.Normal
import GoPhat.VR.SendAndRecv
import GoPhat.VR.ViewChange
import GoPhat.VR.Group
import GoPhat.VR.Uncommitted
import GoPhat.VR.Install
import GoPhat.VR.Lease
import GoPhat.VR.Commit
import GoPhat.VR.Status
import GoPhat.VR.Addressing
import GoPhat.VR.LogMatch
import GoPhat.VR.Quorum
import GoPhat.VR.Completion
import GoPhat.VR.OneCommand
import GoPhat.VR.Faults
import GoPhat.VR.Duplicates
import GoPhat.VR.Timers
import GoPhat.PhatRPC
import GoPhat.Phatdb
import GoPhat.Phatdb.Store
import GoPhat.Phatqueue
import GoPhat.Phatclient
