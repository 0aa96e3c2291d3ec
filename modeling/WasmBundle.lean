import WasmBundle.Container.Format
import WasmBundle.Main
import WasmBundle.Proofs.CommandRuns
import WasmBundle.Proofs.ConfigDiscovery
import WasmBundle.Proofs.ConfigRebasing
import WasmBundle.Proofs.ContainerCorruption
import WasmBundle.Proofs.ContainerFields
import WasmBundle.Proofs.ContainerLength
import WasmBundle.Proofs.ContainerRoundTrip
import WasmBundle.Proofs.ContainerSoundness
import WasmBundle.Proofs.DiscoveryOrder
import WasmBundle.Proofs.DiskAgreement
import WasmBundle.Proofs.DistinctRoots
import WasmBundle.Proofs.ImportSections
import WasmBundle.Proofs.IndexSnapshot
import WasmBundle.Proofs.ModuleProvenance
import WasmBundle.Proofs.NameCollisions
import WasmBundle.Proofs.PrefixStripping
import WasmBundle.Proofs.ProgramLaunching
import WasmBundle.Proofs.ReaderBounds
import WasmBundle.Proofs.RootPrecedence
import WasmBundle.Proofs.RuleReading
import WasmBundle.Proofs.RuntimeExclusion
import WasmBundle.Proofs.ScriptLayout
import WasmBundle.Proofs.SearchPathRoots
import WasmBundle.Proofs.SharedArtifacts
import WasmBundle.Proofs.StoreInserts
import WasmBundle.Proofs.StrategyAgreement
import WasmBundle.Proofs.TruncatedBinaries
import WasmBundle.Proofs.WalkBounds
import WasmBundle.Proofs.WalkDependence
import WasmBundle.Proofs.WalkRecursion
import WasmBundle.Store
