import VideoInterop.Lib.FiniteMap
import VideoInterop.Lib.Handles
import VideoInterop.Lib.Checks
import VideoInterop.Lib.Claims
import VideoInterop.Lib.Dispatch
import VideoInterop.Lib.Effect
import VideoInterop.Lib.Integers
import VideoInterop.Lib.Mailbox
import VideoInterop.Lib.Path
import VideoInterop.Lib.Program
import VideoInterop.Lib.Rows
import VideoInterop.Lib.Threads
import VideoInterop.Lib.SerialQueue
import VideoInterop.Lib.Words
import VideoInterop.LeaseOwner.Message
import VideoInterop.LeaseOwner.State
import VideoInterop.LeaseOwner.Callbacks
import VideoInterop.LeaseOwner.Frames
import VideoInterop.LeaseOwner.Transitions
import VideoInterop.LeaseOwner.Runs
import VideoInterop.LeaseOwner.Coupling
import VideoInterop.LeaseOwner.Ledger
import VideoInterop.LeaseOwner.Refinement
import VideoInterop.LeaseOwner.Histories
import VideoInterop.LeaseOwner.Conservation
import VideoInterop.LeaseOwner.Drain
import VideoInterop.LeaseOwner.ReleaseQueue
import VideoInterop.LeaseOwner.Roster
import VideoInterop.LeaseOwner.Custody
import VideoInterop.LeaseOwner.Changes
import VideoInterop.LeaseOwner.Tally
import VideoInterop.LeaseOwner.Retirement
import VideoInterop.LeaseOwner.Mail
import VideoInterop.LeaseOwner.Replies
import VideoInterop.LeaseOwner.Told
import VideoInterop.LeaseOwner.Calls
import VideoInterop.LeaseOwner.Residue
import VideoInterop.LeaseOwner.Bookkeeping
import VideoInterop.LeaseOwner.Timers
import VideoInterop.LeaseOwner.Rejections
import VideoInterop.LeaseOwner.Tombstones
import VideoInterop.LeaseOwner.Verdict
import VideoInterop.Vulkan.Nv12Layout
import VideoInterop.Vulkan.Shader
import VideoInterop.Vulkan.Staging
import VideoInterop.Vulkan.Record
import VideoInterop.Vulkan.Transfer
import VideoInterop.Vulkan.Lane
import VideoInterop.Vulkan.LaneCustody
import VideoInterop.Vulkan.LaneOutcomes
import VideoInterop.Vulkan.DeviceLoss
import VideoInterop.Vulkan.SourceCache
import VideoInterop.Vulkan.CacheRuns
import VideoInterop.Vulkan.OutputPool
import VideoInterop.Vulkan.PoolRuns
import VideoInterop.Vulkan.Admission
import VideoInterop.Vulkan.Imported
import VideoInterop.Vulkan.Timestamps
import VideoInterop.Vulkan.Importer
import VideoInterop.Vulkan.FastPath
import VideoInterop.Vulkan.ImportVariants
import VideoInterop.Vulkan.PackedStaging
import VideoInterop.Vulkan.Capability
import VideoInterop.Vulkan.Resolution
import VideoInterop.Vulkan.Construction
import VideoInterop.Vulkan.Cleanup
import VideoInterop.Dispatcher.Calls
import VideoInterop.Dispatcher.Stages
import VideoInterop.Dispatcher.Barrier
import VideoInterop.Dispatcher.Commands
import VideoInterop.Dispatcher.Closing
import VideoInterop.Dispatcher.Leases
import VideoInterop.Dispatcher.Guards
import VideoInterop.Dispatcher.Abandonment
import VideoInterop.Dispatcher.Delivery
import VideoInterop.Native.Frame
import VideoInterop.Native.Layouts
import VideoInterop.Native.Duplicate
import VideoInterop.Schema.Term
import VideoInterop.Schema.Validator
import VideoInterop.Schema.BinaryFrame
import VideoInterop.LeaseOwner.Effects
import VideoInterop.LeaseOwner.Standing
import VideoInterop.LeaseOwner.Promises
import VideoInterop.LeaseOwner.Validity
