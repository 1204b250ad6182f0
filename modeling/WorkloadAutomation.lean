import WorkloadAutomation.Text
import WorkloadAutomation.ResourceKinds
import WorkloadAutomation.PriorityList
import WorkloadAutomation.Resolver
import WorkloadAutomation.Version
import WorkloadAutomation.ApkInfo
import WorkloadAutomation.ApkInfoCache
import WorkloadAutomation.ApkId
import WorkloadAutomation.CacheableApkInfo
import WorkloadAutomation.ApkMatch
import WorkloadAutomation.MatchConditions
import WorkloadAutomation.Logcat
import WorkloadAutomation.LogcatGrammar
import WorkloadAutomation.Shlex
import WorkloadAutomation.LaunchCommand
import WorkloadAutomation.PyDict
import WorkloadAutomation.TargetDescriptor
import WorkloadAutomation.PlatformOverrides
import WorkloadAutomation.ShippedTargets
import WorkloadAutomation.TargetListing
import WorkloadAutomation.AdhocTargets
import WorkloadAutomation.TargetInstantiation
import WorkloadAutomation.PostgresLevel
import WorkloadAutomation.PostgresArray
import WorkloadAutomation.PostgresAdapters
import WorkloadAutomation.SchemaHeader
import WorkloadAutomation.DefaultConfig
import WorkloadAutomation.LogcatFile
import WorkloadAutomation.Command
