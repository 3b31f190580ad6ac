import McuMgr.Config
import McuMgr.SlotState
import McuMgr.SlotSelect
import McuMgr.Version
import McuMgr.Flash
import McuMgr.Erase
import McuMgr.SlotAccess
import McuMgr.UploadInspect
import McuMgr.SlotSafety
import McuMgr.WriteImage
import McuMgr.FsWrite
import McuMgr.StateWrite
import McuMgr.StateRead
