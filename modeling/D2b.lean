import D2b.RealmCore.RouteEngine.Replay
import D2b.RealmCore.RouteEngine.Grants
import D2b.RealmCore.RouteEngine.Shape
import D2b.RealmCore.RouteEngine.RouteOrder
import D2b.RealmCore.AllocatorEngine.Idempotency
import D2b.RealmCore.AllocatorEngine.Reconcile
import D2b.RealmCore.IdentityStore.Permanence
import D2b.RealmCore.IdentityStore.SingleActive
import D2b.RealmCore.IdentityStore.Atomicity
import D2b.RealmRouter.RemoteNode.NoBlindResend
import D2b.RealmCore.Fingerprint
import D2b.RealmCore.Mux.Mirrors
import D2b.RealmCore.Mux.Wire
import D2b.RealmCodecProtobuf.RoundTrip
import D2b.ExecRunner.FileRing.NoTornRead
import D2b.Guestd.Exec.EofFinal
import D2b.Guestd.Exec.Admission
import D2b.Guestd.ExecPty.Control
import D2b.Guestd.ExecPty.ExactlyOnce
import D2b.Guestd.ShellEvents
import D2b.Guestd.DetachedRegistry.NamedExec
import D2b.Guestd.DetachedRegistry.Restart
import D2b.Guestd.DetachedRegistry.Sweep
import D2b.Guestd.DetachedCommand.Recognised
import D2b.Guestd.Auth.Freshness
import D2b.Daemon.Dag.NoWait
import D2b.Core.Base64
import D2b.Core.BundleResolver.Prerequisites
import D2b.Daemon.PidfdTable.StopVerdict
import D2b.Daemon.SecurityKey.Isolation
import D2b.Clipd.EventLoop.PickedFor
import D2b.Clipd.EventLoop.PickedData
import D2b.Clipd.EventLoop.LatestCopy
import D2b.Clipd.EventLoop.Secrets
import D2b.Clipd.Fallback
import D2b.WaylandProxy.AppId
import D2b.WaylandProxy.Registry.Filters
import D2b.Host.Ifname
import D2b.PrivBroker.Hosts
import D2b.PrivBroker.UsbipLock
import D2b.UnsafeLocalHelper.ShellSupervisor
