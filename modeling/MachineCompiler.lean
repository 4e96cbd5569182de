import MachineCompiler.Compile.Compiler
import MachineCompiler.Compile.Probe
import MachineCompiler.Engine.Interference
import MachineCompiler.Engine.Sample
import MachineCompiler.Json.Reader
import MachineCompiler.Options.CommandLine
import MachineCompiler.Options.Json
import MachineCompiler.Source.Line
import MachineCompiler.Proofs.Compile.Cleanup
import MachineCompiler.Proofs.Compile.Findings
import MachineCompiler.Proofs.Compile.Generation
import MachineCompiler.Proofs.Compile.Independence
import MachineCompiler.Proofs.Compile.Inertness
import MachineCompiler.Proofs.Compile.Preconditions
import MachineCompiler.Proofs.Compile.Preparation
import MachineCompiler.Proofs.Compile.ProvenErrors
import MachineCompiler.Proofs.Compile.RenderedFiles
import MachineCompiler.Proofs.Compile.Reporting
import MachineCompiler.Proofs.Compile.SupportHistory
import MachineCompiler.Proofs.Compile.Survival
import MachineCompiler.Proofs.Compile.Verdict
import MachineCompiler.Proofs.Compile.Writes
import MachineCompiler.Proofs.Engine.Enumeration
import MachineCompiler.Proofs.Engine.Extraction
import MachineCompiler.Proofs.Engine.Printing
import MachineCompiler.Proofs.Engine.Sessions
import MachineCompiler.Proofs.Source.AliasExtension
import MachineCompiler.Proofs.Source.BreadthFirst
import MachineCompiler.Proofs.Source.Identifiers
import MachineCompiler.Proofs.Source.Isomorphism
import MachineCompiler.Proofs.Source.References
import MachineCompiler.Proofs.Source.Regions
import MachineCompiler.Proofs.Source.Repetitions
import MachineCompiler.Proofs.Source.UnsharedBases
