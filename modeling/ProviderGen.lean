import ProviderGen.CommandLine.Program
import ProviderGen.Main
import ProviderGen.OrderedMap.Lemmas
import ProviderGen.Proofs.CallSite
import ProviderGen.Proofs.ResourceTable
import ProviderGen.Proofs.CallOrder
import ProviderGen.Proofs.RunTrace
import ProviderGen.Proofs.FailFast
import ProviderGen.Proofs.HubSpoke
import ProviderGen.Proofs.PlanAgreement
import ProviderGen.Proofs.RegisteredPackages
import ProviderGen.Proofs.ControllerMap
import ProviderGen.Proofs.Lowercase
import ProviderGen.Proofs.HubRule
import ProviderGen.Proofs.Split
import ProviderGen.Proofs.PackagePath
import ProviderGen.Proofs.HostPath
import ProviderGen.Proofs.BucketPlace
import ProviderGen.Proofs.ByteOrder
import ProviderGen.Proofs.TableContents
import ProviderGen.Proofs.FileEffect
import ProviderGen.Proofs.WorkEffect
import ProviderGen.Proofs.RunEffect
import ProviderGen.Proofs.Overwrite
import ProviderGen.Proofs.Regeneration
import ProviderGen.Proofs.PathWithin
import ProviderGen.Proofs.WrittenPaths
import ProviderGen.Proofs.Confinement
import ProviderGen.Proofs.HostRun
import ProviderGen.Proofs.JsonText
import ProviderGen.Proofs.PlanText
import ProviderGen.Proofs.BaseControllers
import ProviderGen.Proofs.FormatterLaunch
import ProviderGen.Proofs.RunFailure
import ProviderGen.Proofs.Classification
import ProviderGen.Proofs.NodeLists
import ProviderGen.Proofs.Wiring
import ProviderGen.Proofs.DocumentShape
import ProviderGen.Proofs.RecordDecoding
import ProviderGen.Proofs.KnownKeys
import ProviderGen.Proofs.ConfigAcceptance
import ProviderGen.Proofs.HubFault
import ProviderGen.Proofs.FileContents
import ProviderGen.Proofs.VersionFiles
import ProviderGen.Proofs.SetupFiles
import ProviderGen.Proofs.PendingManifests
import ProviderGen.Proofs.ManifestFiles
import ProviderGen.Proofs.FormatterWalk
import ProviderGen.Proofs.Imports
import ProviderGen.Proofs.CanonicalPath
import ProviderGen.Proofs.ImportNames
import ProviderGen.Proofs.PackageDirectory
import ProviderGen.Proofs.PackageName
import ProviderGen.Proofs.PackageClause
import ProviderGen.Proofs.AliasSearch
import ProviderGen.Proofs.Occurrences
import ProviderGen.Proofs.MainTemplate
import ProviderGen.Proofs.Literal
import ProviderGen.Proofs.ConstantText
