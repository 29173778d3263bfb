import CsiWekafs.Lib.Prog
import CsiWekafs.Lib.World
import CsiWekafs.Lib.Threads
import CsiWekafs.Lib.GoOs
import CsiWekafs.Lib.GoMap
import CsiWekafs.Lib.Machine
import CsiWekafs.Lib.MachineInt
import CsiWekafs.Lib.GoPath
import CsiWekafs.Lib.GoNet
import CsiWekafs.Lib.GoNetIP
import CsiWekafs.Lib.GoNetCIDR
import CsiWekafs.Lib.GoText
import CsiWekafs.Lib.Regex
import CsiWekafs.Lib.Split
import CsiWekafs.Lib.Trim
import CsiWekafs.Lib.GoPathWithin
import CsiWekafs.Lib.Scaling
import CsiWekafs.Lib.Digest
import CsiWekafs.Basic
import CsiWekafs.VolumeId
import CsiWekafs.Validate
import CsiWekafs.Names
import CsiWekafs.MountOptions
import CsiWekafs.Api.Objects
import CsiWekafs.Env
import CsiWekafs.Api.Request
import CsiWekafs.Api.Calls
import CsiWekafs.Api.Quotas
import CsiWekafs.Api.Frames
import CsiWekafs.Volume.Basic
import CsiWekafs.Volume.Objects
import CsiWekafs.Volume.Frames
import CsiWekafs.Snapshot
import CsiWekafs.Snapshot.Create
import CsiWekafs.Volume.FromId
import CsiWekafs.Volume.Params
import CsiWekafs.Numerals
import CsiWekafs.Volume.Capacity
import CsiWekafs.Volume.FromRequest
import CsiWekafs.Volume.Looks
import CsiWekafs.Volume.RoundTrip
import CsiWekafs.Volume.Delete
import CsiWekafs.Volume.DeleteFrames
import CsiWekafs.Volume.Create
import CsiWekafs.Volume.CreateFrames
import CsiWekafs.Volume.DeleteTarget
import CsiWekafs.Volume.SnapshotTarget
import CsiWekafs.Volume.DeleteGuard
import CsiWekafs.Volume.DeleteOutcome
import CsiWekafs.Volume.NilFree
import CsiWekafs.Volume.Spared
import CsiWekafs.Volume.SparedCreation
import CsiWekafs.Snapshot.Deletion
import CsiWekafs.Capacity.Tracker
import CsiWekafs.Capacity.Refresh
import CsiWekafs.Capacity.Reserve
import CsiWekafs.Capacity.Classify
import CsiWekafs.Capacity.Overflow
import CsiWekafs.Storage.State
import CsiWekafs.Storage.Calls
import CsiWekafs.Storage.Volumes
import CsiWekafs.Storage.Recorded
import CsiWekafs.Storage.Updates
import CsiWekafs.Storage.Existence
import CsiWekafs.Storage.Space
import CsiWekafs.Storage.Capacities
import CsiWekafs.Storage.Lookups
import CsiWekafs.Storage.Requests
import CsiWekafs.Storage.Creation
import CsiWekafs.Storage.Unrecorded
import CsiWekafs.Storage.Encryption
import CsiWekafs.Storage.Cluster
import CsiWekafs.Storage.Snapshots
import CsiWekafs.Storage.Resizing
import CsiWekafs.Mounter.Mount
import CsiWekafs.Mounter.Mounter
import CsiWekafs.Mounter.Runs
import CsiWekafs.Mounter.Nfs
import CsiWekafs.Gc.Flags
import CsiWekafs.Gc.Trash
import CsiWekafs.Controller.CreateVolume
import CsiWekafs.Controller.NilFree
import CsiWekafs.Controller.CreateSnapshot
import CsiWekafs.Controller.NilFreeSnapshot
import CsiWekafs.Controller.VolumeIds
import CsiWekafs.Snapshot.RoundTrip
import CsiWekafs.Snapshot.Lineage
import CsiWekafs.Controller.SnapshotIntegrity
import CsiWekafs.Controller.Creations
import CsiWekafs.Controller.ExpandVolume
import CsiWekafs.Controller.Expansions
import CsiWekafs.Controller.Reservations
import CsiWekafs.Controller.Attempts
import CsiWekafs.Controller.CapacityReads
import CsiWekafs.Controller.Repeats
import CsiWekafs.Controller.CapacityUpdates
import CsiWekafs.Node.Env
import CsiWekafs.Node.Overrides
import CsiWekafs.Node.Publish
import CsiWekafs.Node.Options
import CsiWekafs.Node.Merge
import CsiWekafs.Node.Printing
import CsiWekafs.Node.Modifiers
import CsiWekafs.Node.LastModifier
import CsiWekafs.Node.PodAnnotation
import CsiWekafs.Node.Handed
import CsiWekafs.Node.Published
import CsiWekafs.Node.ReadOnly
import CsiWekafs.Client.Store
import CsiWekafs.Client.Endpoints
import CsiWekafs.Client.EndpointRuns
import CsiWekafs.Client.EndpointUpdates
import CsiWekafs.Client.Session
import CsiWekafs.Client.Requests
import CsiWekafs.Client.Replies
import CsiWekafs.Client.Unauthorized
import CsiWekafs.Client.Logins
import CsiWekafs.Client.Relock
import CsiWekafs.Client.Freshness
import CsiWekafs.Client.Backoff
import CsiWekafs.Client.BaseUrl
import CsiWekafs.Client.Frontends
import CsiWekafs.Nfs.Rules
import CsiWekafs.Leader.Gate
import CsiWekafs.Leader.Runs
import CsiWekafs.Nfs.Ensure
import CsiWekafs.Mounter.NfsOptions
import CsiWekafs.Mounter.Selinux
import CsiWekafs.Mounter.Sharing
import CsiWekafs.Volume.Confinement
import CsiWekafs.Volume.NestedMounts
import CsiWekafs.Volume.ThinSsd
import CsiWekafs.Nfs.Targets
