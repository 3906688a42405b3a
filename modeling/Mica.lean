import Mica.Debug.Segmentation
import Mica.Endpoint.Durability
import Mica.Endpoint.Listing
import Mica.Endpoint.Names
import Mica.Endpoint.Ownership
import Mica.Endpoint.Registration
import Mica.Lifecycle.TableAccess
import Mica.McsKm.DevInit
import Mica.McsKm.Notification
import Mica.Memory.Layout
import Mica.Memory.RbufDev
import Mica.Memory.VringPlacement
import Mica.MetalList.Cleanup
import Mica.Micactl.CreateMsg
import Mica.Micactl.Reply
import Mica.Micad.ClientIsolation
import Mica.Micad.EventLoop
import Mica.Pty.Devices
import Mica.Pty.Newlines
import Mica.Remoteproc.Handshake
import Mica.RingBuffer.Slots
import Mica.RingBuffer.Spsc
import Mica.RingBuffer.Wrap
import Mica.Rpc.AddrlistCleanup
import Mica.Rpc.AddrlistStores
import Mica.Rpc.FreadData
import Mica.Rpc.HostCodec
import Mica.Rpc.RequestBuffers
import Mica.Rpc.ReturnValues
import Mica.Rpc.WritevData
import Mica.UserMsg.Exchange
import Mica.UserMsg.LockRelease
