import AvocadoMisc.Library.Transitions
import AvocadoMisc.Library.DoublyLinked
import AvocadoMisc.Library.Refinement
import AvocadoMisc.Library.Accounting
import AvocadoMisc.Library.Places
import AvocadoMisc.Library.Handoff
import AvocadoMisc.Library.WordLoops
import AvocadoMisc.Library.SparseFile
import AvocadoMisc.Library.Retrace
import AvocadoMisc.Library.Scanning
import AvocadoMisc.Library.Ranges
import AvocadoMisc.Library.Text
import AvocadoMisc.Library.Fronting
import AvocadoMisc.Dwh.Queues
import AvocadoMisc.Dwh.QueueContents
import AvocadoMisc.Dwh.QueueLaws
import AvocadoMisc.Dwh.QueueRefinement
import AvocadoMisc.Dwh.QueueInvariant
import AvocadoMisc.Dwh.VerifySettings
import AvocadoMisc.Dwh.Sizing
import AvocadoMisc.Dwh.Memory
import AvocadoMisc.Dwh.ThreadLife
import AvocadoMisc.Dwh.ThreadCounts
import AvocadoMisc.Dwh.WorkerSlots
import AvocadoMisc.Dwh.Transfers
import AvocadoMisc.Dwh.TransferAccounts
import AvocadoMisc.Dwh.IoSystem
import AvocadoMisc.Dwh.IoEffects
import AvocadoMisc.Dwh.HandoffSimulation
import AvocadoMisc.Dwh.CompletionHandoff
import AvocadoMisc.Dwh.ShutdownDrain
import AvocadoMisc.Dwh.BufferRelease
import AvocadoMisc.Disktest.Blocks
import AvocadoMisc.Disktest.Passes
import AvocadoMisc.Disktest.Coverage
import AvocadoMisc.Disktest.Detection
import AvocadoMisc.Disktest.VerifyOnly
import AvocadoMisc.Disktest.Tasks
import AvocadoMisc.Disktest.FalseAlarms
import AvocadoMisc.Dlpar.Partition
import AvocadoMisc.Dlpar.Payloads
import AvocadoMisc.Dlpar.MixLimits
import AvocadoMisc.Dlpar.MemoryMix
import AvocadoMisc.Dlpar.SharedCpus
import AvocadoMisc.Dlpar.ConfigFile
import AvocadoMisc.StressngMem.CallTraces
import AvocadoMisc.StressngMem.LostTraces
import AvocadoMisc.IrqBalance.AffinityCheck
import AvocadoMisc.Nvme.Namespaces
import AvocadoMisc.MemHotplug.Restore
import AvocadoMisc.Vnic.BackingDevices
import AvocadoMisc.NvmeTcp.Initiator
import AvocadoMisc.NvmeTcp.Connections
import AvocadoMisc.NvmeTcp.Deconfigure
import AvocadoMisc.Ltp.Failures
import AvocadoMisc.Ltp.BuildCache
import AvocadoMisc.Vpd.Parsers
import AvocadoMisc.Vpd.SpyreValidation
import AvocadoMisc.PerfHotplug.Cpumask
import AvocadoMisc.CpuHotplug.GiveBack
import AvocadoMisc.Library.Patterns
import AvocadoMisc.Library.Scripts
import AvocadoMisc.HnvBond.SlaveRestore
import AvocadoMisc.Eeh.InjectionLoop
import AvocadoMisc.Disktest.Wrapper
import AvocadoMisc.Kselftest.Failures
import AvocadoMisc.Hugepages.PoolRestore
import AvocadoMisc.Arcconf.OsDrive
import AvocadoMisc.NvmeSed.HandBack
import AvocadoMisc.DiskBench.StorageStack
import AvocadoMisc.Bootlist.Survival
import AvocadoMisc.Vfc.Records
import AvocadoMisc.Library.Writes
import AvocadoMisc.Library.Rounds
import AvocadoMisc.Vfc.CreateDelete
import AvocadoMisc.PortBounce.PathCheck
import AvocadoMisc.Bonding.SetupCleanup
import AvocadoMisc.Multipath.Backup
import AvocadoMisc.Mvcli.VirtualDisks
import AvocadoMisc.Arcconf.RaidCreation
import AvocadoMisc.Rcutorture.Verdict
import AvocadoMisc.DmaMemtest.Comparison
import AvocadoMisc.Ethtool.PrivFlags
import AvocadoMisc.Ethtool.Channels
import AvocadoMisc.Library.Strides
import AvocadoMisc.Dwh.FillFile
import AvocadoMisc.Dwh.FileOffsets
import AvocadoMisc.Dwh.TransferResults
import AvocadoMisc.Dwh.LockBalance
import AvocadoMisc.KvmUnit.BuildMarker
import AvocadoMisc.Library.Assignments
import AvocadoMisc.KvmUnit.ModuleState
import AvocadoMisc.FsstressNfs.PeerRestore
import AvocadoMisc.Htx.StopHtx
import AvocadoMisc.Lshw.Accelerator
import AvocadoMisc.ModuleLoadUnload.Restored
import AvocadoMisc.Library.Numerals
import AvocadoMisc.Dwh.SizeParsing
import AvocadoMisc.Library.WhileLoops
import AvocadoMisc.Dwh.UnitScaling
import AvocadoMisc.Dwh.ElapsedTime
import AvocadoMisc.Library.Commuting
import AvocadoMisc.Dwh.OptionOrder
import AvocadoMisc.Disktest.Exactness
import AvocadoMisc.Dlpar.MemoryPayload
import AvocadoMisc.Perf.GenericEvents
import AvocadoMisc.Vpd.Lscfg
import AvocadoMisc.Library.Sections
import AvocadoMisc.Vpd.Extraction
import AvocadoMisc.Library.Groups
import AvocadoMisc.Vpd.Fields
import AvocadoMisc.Perf.NmemEvents
import AvocadoMisc.Library.Polling
import AvocadoMisc.Eeh.Recovery
import AvocadoMisc.Library.Regexes
import AvocadoMisc.FunctionGraph.EarlyExit
import AvocadoMisc.Schbench.Reports
import AvocadoMisc.Kselftest.MremapTimes
import AvocadoMisc.Vnic.PortParsers
import AvocadoMisc.NvmeTcp.Multipath
import AvocadoMisc.Xfstests.LoopImages
import AvocadoMisc.Library.Parts
import AvocadoMisc.Library.ShrinkingLoops
import AvocadoMisc.Library.Neighbours
import AvocadoMisc.Library.LineTools
import AvocadoMisc.DmaMemtest.Copies
import AvocadoMisc.Xfstests.PmemNamespaces
import AvocadoMisc.Iommu.DomainWalk
import AvocadoMisc.PortBounce.SwitchState
import AvocadoMisc.PortBounce.HostSelection
import AvocadoMisc.Htx.DeviceChecks
import AvocadoMisc.Vfc.HostLookups
import AvocadoMisc.DriverParameter.Gates
import AvocadoMisc.DiskInfo.Checks
import AvocadoMisc.DiskInfo.SizeChecks
import AvocadoMisc.DiskInfo.SectionRange
import AvocadoMisc.Library.NumberTexts
import AvocadoMisc.Library.Labels
import AvocadoMisc.NumaTest.MemoryNodes
import AvocadoMisc.Ndctl.Namespaces
import AvocadoMisc.Lvsetup.Sizes
import AvocadoMisc.MemHotplug.Share
import AvocadoMisc.MemHotplug.NodeLists
import AvocadoMisc.Libhugetlbfs.Summary
import AvocadoMisc.Iozone.KeyVals
import AvocadoMisc.NetThroughput.Verdicts
import AvocadoMisc.Ebizzy.PerfReaders
import AvocadoMisc.SchedulerTunables.PerfOutput
import AvocadoMisc.Library.Losses
import AvocadoMisc.Library.Liveness
import AvocadoMisc.Dwh.EveryRun
import AvocadoMisc.Dwh.ShutdownEnds
import AvocadoMisc.Library.Factoring
import AvocadoMisc.CpuDieTopology.Consistency
import AvocadoMisc.CpuDieTopology.CpuSets
import AvocadoMisc.Library.Contracts
import AvocadoMisc.Ppc64Cpu.Info
import AvocadoMisc.Ppc64Cpu.SystemState
import AvocadoMisc.Ppc64Cpu.Commands
import AvocadoMisc.Ppc64Cpu.Printing
import AvocadoMisc.Ppc64Cpu.WholeTests
import AvocadoMisc.Ltp.Skipfiles
import AvocadoMisc.Library.AddressSpaces
import AvocadoMisc.MemoryApi.Remapping
import AvocadoMisc.Library.TextFiles
import AvocadoMisc.Dwh.SizingRuns
