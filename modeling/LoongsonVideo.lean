import LoongsonVideo.Verified.Machine
import LoongsonVideo.Verified.Ledger
import LoongsonVideo.Verified.Pending
import LoongsonVideo.Driver.Msc
import LoongsonVideo.Driver.DrmQueue
import LoongsonVideo.Driver.DrmQueueRun
import LoongsonVideo.Driver.DrmQueueDelivery
import LoongsonVideo.Driver.WakeupFd
import LoongsonVideo.Driver.PageFlip
import LoongsonVideo.Driver.PageFlipRun
import LoongsonVideo.Driver.PageFlipLedger
import LoongsonVideo.Verified.History
import LoongsonVideo.Verified.Bytes
import LoongsonVideo.Verified.Region
import LoongsonVideo.Driver.PageFlipNotify
import LoongsonVideo.Driver.PageFlipFailed
import LoongsonVideo.Driver.QueueVblank
import LoongsonVideo.Driver.Dri2FrameEvent
import LoongsonVideo.Driver.Dri2Ownership
import LoongsonVideo.Driver.ExaPixmap
import LoongsonVideo.Driver.ExaPixmapLedger
import LoongsonVideo.Driver.ExaAccess
import LoongsonVideo.Driver.ExaMemory
import LoongsonVideo.Driver.HardwareCursor
import LoongsonVideo.Driver.Dri3Import
import LoongsonVideo.Driver.Shadow
import LoongsonVideo.Driver.ShadowUpdate
import LoongsonVideo.Driver.MscReconstruct
import LoongsonVideo.Driver.CounterWidth
import LoongsonVideo.Driver.Dri2Completion
import LoongsonVideo.Driver.SoftwareCursor
import LoongsonVideo.Verified.Row
import LoongsonVideo.Driver.Scanout
import LoongsonVideo.Driver.ScanoutLayout
import LoongsonVideo.Driver.ScanoutFb
import LoongsonVideo.Driver.Outputs
import LoongsonVideo.Driver.ZaphodHeads
import LoongsonVideo.Driver.AtomicModeset
import LoongsonVideo.Driver.Hotplug
import LoongsonVideo.Driver.AtomicRequest
import LoongsonVideo.Driver.HotplugSync
import LoongsonVideo.Driver.FlipFlags
import LoongsonVideo.Driver.FlipExclusion
import LoongsonVideo.Driver.FlipSeparation
import LoongsonVideo.Driver.SharedPixmap
import LoongsonVideo.Driver.SharedPixmapChain
import LoongsonVideo.Verified.Scan
import LoongsonVideo.Driver.Covering
import LoongsonVideo.Driver.SwapTiming
import LoongsonVideo.Driver.FormatModifiers
import LoongsonVideo.Driver.ExaReplace
import LoongsonVideo.Driver.ScreenResize
import LoongsonVideo.Driver.ModeSet
import LoongsonVideo.Driver.Unflip
import LoongsonVideo.Driver.DeviceFd
import LoongsonVideo.Driver.GlamorHooks
import LoongsonVideo.Verified.Writes
import LoongsonVideo.Driver.Palette
import LoongsonVideo.Driver.ResizeRelease
import LoongsonVideo.Driver.ShadowWindow
import LoongsonVideo.Driver.ModeBlob
import LoongsonVideo.Driver.KernelModes
import LoongsonVideo.Driver.PresentAbort
import LoongsonVideo.Driver.FormatSupport
import LoongsonVideo.Driver.OutputProperty
import LoongsonVideo.Driver.PropTable
import LoongsonVideo.Driver.Planes
import LoongsonVideo.Driver.DpmsCommit
import LoongsonVideo.Driver.FlipRecords
import LoongsonVideo.Verified.Overflow
import LoongsonVideo.Driver.PixmapMemory
import LoongsonVideo.Driver.Probe
import LoongsonVideo.Driver.DirtyUpdate
import LoongsonVideo.Verified.Retry
import LoongsonVideo.Driver.VblankRetry
import LoongsonVideo.Driver.EncoderTables
import LoongsonVideo.Verified.Mirror
import LoongsonVideo.Driver.PrimeSource
import LoongsonVideo.Driver.PrimePair
import LoongsonVideo.Driver.PrimeProjection
import LoongsonVideo.Driver.ModeSetProjection
import LoongsonVideo.Driver.FlipProjection
import LoongsonVideo.Driver.PrimeUpdate
import LoongsonVideo.Driver.PrimeChain
import LoongsonVideo.Driver.PrimeLive
import LoongsonVideo.Driver.Leases
import LoongsonVideo.Verified.Shared
import LoongsonVideo.Driver.Dri2Buffers
import LoongsonVideo.Driver.Dri2References
import LoongsonVideo.Driver.Dri2Swap
import LoongsonVideo.Driver.Dri2Frames
import LoongsonVideo.Driver.Dri2FrameReferences
import LoongsonVideo.Verified.Hooks
import LoongsonVideo.Driver.ScreenHooks
import LoongsonVideo.Driver.RotateShadow
