import ShaderBuild.Driver.Canned
import ShaderBuild.Driver.Scripted
import ShaderBuild.Driver.Trace
import ShaderBuild.Disk.Tree
import ShaderBuild.Main
import ShaderBuild.Workbench
import ShaderBuild.Proofs.BuildTrails
import ShaderBuild.Proofs.ReportWriting
import ShaderBuild.Proofs.RunTrails
import ShaderBuild.Proofs.RunDialogue
import ShaderBuild.Proofs.ReportedStages
import ShaderBuild.Proofs.ReportCut
import ShaderBuild.Proofs.CannedGl
import ShaderBuild.Proofs.QueryIsolation
import ShaderBuild.Proofs.DescribedBuild
import ShaderBuild.Proofs.LenientDecoding
import ShaderBuild.Proofs.CannedDescription
import ShaderBuild.Proofs.GlesDescription
import ShaderBuild.Proofs.DriverAgreement
import ShaderBuild.Proofs.CannedFidelity
import ShaderBuild.Proofs.ReportLines
import ShaderBuild.Proofs.CommandPhases
import ShaderBuild.Proofs.ParallelBuilds
import ShaderBuild.Proofs.Reflection
import ShaderBuild.Proofs.RunFindings
import ShaderBuild.Proofs.ReportBlocks
import ShaderBuild.Proofs.CannedRun
import ShaderBuild.Proofs.RenumberedBuilds
import ShaderBuild.Proofs.ShaderVerdicts
import ShaderBuild.Proofs.RepeatedRuns
import ShaderBuild.Proofs.CutNames
import ShaderBuild.Proofs.MachineDialogue
import ShaderBuild.Proofs.QueryTrails
import ShaderBuild.Proofs.ContextCreation
import ShaderBuild.Proofs.FetchedBinaries
import ShaderBuild.Proofs.NameBuffers
import ShaderBuild.Proofs.WellFormedBytes
import ShaderBuild.Proofs.SourceBytes
import ShaderBuild.Proofs.BoundarySearch
import ShaderBuild.Proofs.RunWarnings
import ShaderBuild.Proofs.HandedLogs
import ShaderBuild.Proofs.AlikeBuilds
import ShaderBuild.Proofs.PaddedLogs
