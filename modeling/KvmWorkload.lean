import KvmWorkload.Lib.Classes
import KvmWorkload.Lib.Decimal
import KvmWorkload.Lib.Radix
import KvmWorkload.Lib.Fields
import KvmWorkload.Lib.Words
import KvmWorkload.Lib.PyText
import KvmWorkload.Lib.Paths
import KvmWorkload.Lib.Glob
import KvmWorkload.Lib.Lists
import KvmWorkload.Lib.Dict
import KvmWorkload.Lib.Interleaving
import KvmWorkload.Lib.Exec
import KvmWorkload.Lib.Segments
import KvmWorkload.Lib.Pattern
import KvmWorkload.Lib.ShellArith
import KvmWorkload.Lib.Mailbox
import KvmWorkload.Lib.RegisterFile
import KvmWorkload.Lib.Snapshots
import KvmWorkload.Lib.RegisterBank
import KvmWorkload.Mailbox.ShellDriver
import KvmWorkload.Mailbox.SettingsUpdate
import KvmWorkload.Mailbox.PythonDriver
import KvmWorkload.Mailbox.Sockets
import KvmWorkload.Mailbox.Scripts
import KvmWorkload.Mailbox.Validate
import KvmWorkload.MemcRedis.Clients
import KvmWorkload.MemcRedis.Measurement
import KvmWorkload.MemcRedis.CountedOnce
import KvmWorkload.MemcRedis.LoadPhase
import KvmWorkload.MemcRedis.Isolation
import KvmWorkload.MemcRedis.GenerateReport
import KvmWorkload.MemcRedis.PortBalance
import KvmWorkload.MemcRedis.Launchers
import KvmWorkload.MemcRedis.HalfPorts
import KvmWorkload.MemcRedis.CoreSlices
import KvmWorkload.MemcRedis.CoreSpecs
import KvmWorkload.RunTestcases.VmNames
import KvmWorkload.RunTestcases.Collect
import KvmWorkload.RunTestcases.Score
import KvmWorkload.RunTestcases.Resctrl
import KvmWorkload.RunTestcases.Pqos
import KvmWorkload.RunTestcases.Session
import KvmWorkload.RunTestcases.MeasuredDrc
import KvmWorkload.RunTestcases.MeasuredQos
import KvmWorkload.RunTestcases.HostResctrl
import KvmWorkload.RunTestcases.Leftovers
import KvmWorkload.Reporter.CpuCores
import KvmWorkload.Reporter.HpLpSplit
import KvmWorkload.Reporter.CoreText
import KvmWorkload.Reporter.HtSplit
import KvmWorkload.Reporter.PassCriterion
import KvmWorkload.VmCloudInit.Host
import KvmWorkload.VmCloudInit.CpuPool
import KvmWorkload.VmCloudInit.Commands
import KvmWorkload.VmCloudInit.Steps
import KvmWorkload.VmCloudInit.Runs
import KvmWorkload.VmCloudInit.Stops
import KvmWorkload.VmCloudInit.Passthrough
import KvmWorkload.VmCloudInit.CreatedFiles
import KvmWorkload.VmCloudInit.Discovery
import KvmWorkload.VmCloudInit.Locality
import KvmWorkload.VmCloudInit.Disks
import KvmWorkload.VmCloudInit.Addresses
import KvmWorkload.VmCloudInit.CommandPairs
import KvmWorkload.VmCloudInit.Pinning
import KvmWorkload.VmCloudInit.Needs
import KvmWorkload.VmCloudInit.RequestEntries
import KvmWorkload.VmCloudInit.Admission
import KvmWorkload.RunTestcases.Launch
import KvmWorkload.RunTestcases.PinnedRanges
import KvmWorkload.PqosMonTool.Capture
import KvmWorkload.PqosMonTool.Streams
import KvmWorkload.PqosMonTool.Columns
import KvmWorkload.Trex.L3fwd
import KvmWorkload.Trex.Streams5g
import KvmWorkload.Trex.Config5g
import KvmWorkload.Trex.Flows5g
import KvmWorkload.NutanixTestcases.ModeDispatch
import KvmWorkload.Womix.HwpDesire
import KvmWorkload.Womix.Settings
import KvmWorkload.Womix.Overlap
import KvmWorkload.Womix.Verdict
import KvmWorkload.Turbostat.Process
import KvmWorkload.Turbostat.PidKeys
import KvmWorkload.Turbostat.Completion
import KvmWorkload.Nginx.WrkStat
import KvmWorkload.Nginx.WrkReport
