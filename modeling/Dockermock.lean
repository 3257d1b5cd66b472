import Dockermock.Library.Dict
import Dockermock.Library.Table
import Dockermock.Library.History
import Dockermock.Library.Transition
import Dockermock.Library.Text
import Dockermock.Library.Lists
import Dockermock.Library.Log
import Dockermock.Library.Stream
import Dockermock.Library.Paths
import Dockermock.Library.FileSystem
import Dockermock.Library.FileTree
import Dockermock.Library.TreeCopy
import Dockermock.Library.MountStack
import Dockermock.Library.Merge
import Dockermock.Library.FirstFit
import Dockermock.Library.Words
import Dockermock.Library.Registers
import Dockermock.Library.Integers
import Dockermock.Network.Ipv4
import Dockermock.Network.Hosts
import Dockermock.Network.Parsing
import Dockermock.Network.Subnets
import Dockermock.Network.SubnetAllocator
import Dockermock.Network.InterfaceFlags
import Dockermock.Database.Schema
import Dockermock.Database.Config
import Dockermock.Database.Operations
import Dockermock.Database.Links
import Dockermock.Database.Atomicity
import Dockermock.Database.Environment
import Dockermock.Database.AnonymousVolumes
import Dockermock.Database.Addresses
import Dockermock.Database.FreeAddress
import Dockermock.Database.Subnets
import Dockermock.Database.AddNetwork
import Dockermock.Database.Interleaved
import Dockermock.Database.Removal
import Dockermock.Dns.DnsTree
import Dockermock.Dns.SubnetTrie
import Dockermock.Dns.Labels
import Dockermock.Dns.Rejoining
import Dockermock.Dns.Registry
import Dockermock.Dns.Isolation
import Dockermock.Dns.Registration
import Dockermock.Dns.Resolution
import Dockermock.Dns.Forwarding
import Dockermock.Dns.Presence
import Dockermock.Dns.Shared
import Dockermock.Dns.Linearized
import Dockermock.Kqueue.Worker
import Dockermock.Kqueue.JailTable
import Dockermock.Kqueue.Teardown
import Dockermock.Kqueue.Shutdown
import Dockermock.Kqueue.Outstanding
import Dockermock.Kqueue.Provenance
import Dockermock.Jail.Limits
import Dockermock.Jail.Sizes
import Dockermock.Jail.Setup
import Dockermock.Jail.Parameters
import Dockermock.Jail.Release
import Dockermock.Jail.Nesting
import Dockermock.Jail.Interfaces
import Dockermock.Jail.VolumeNames
import Dockermock.Jail.CommandLine
import Dockermock.Jail.Confinement
import Dockermock.Jail.Mounting
import Dockermock.Lifecycle.Server
import Dockermock.Lifecycle.Exclusive
import Dockermock.Lifecycle.Attended
import Dockermock.Lifecycle.Signals
import Dockermock.Lifecycle.Backpressure
import Dockermock.Lifecycle.Framing
import Dockermock.Lifecycle.WorkerLoop
import Dockermock.Lifecycle.StopJail
import Dockermock.Pf.Anchor
import Dockermock.Pf.Removal
import Dockermock.Pf.Ownership
import Dockermock.Pf.Published
import Dockermock.PfUtil.Cidr
import Dockermock.PfUtil.Comparison
import Dockermock.PfUtil.Masks
import Dockermock.PfUtil.Pool
import Dockermock.PfUtil.PoolMerge
import Dockermock.PfUtil.PoolCover
import Dockermock.PfUtil.PoolRemoval
import Dockermock.PfUtil.Rules
import Dockermock.PfUtil.PortRules
import Dockermock.Jail.Routes
import Dockermock.Builder.Copy
import Dockermock.Builder.Dockerfile
import Dockermock.Builder.Build
import Dockermock.Api.Records
import Dockermock.Api.Service
import Dockermock.Api.Agreement
import Dockermock.Api.Runs
import Dockermock.Api.Inspect
import Dockermock.Library.Traversal
import Dockermock.Dns.SharedTree
import Dockermock.Dns.Collecting
import Dockermock.Kqueue.Resources
import Dockermock.Library.Simulation
import Dockermock.Pf.Rulesets
import Dockermock.Pf.Refinement
import Dockermock.Library.Outcomes
import Dockermock.Library.Measure
import Dockermock.Kqueue.Termination
import Dockermock.Library.Descriptors
import Dockermock.Jail.Child
import Dockermock.Cli.Create
import Dockermock.Cli.Created
