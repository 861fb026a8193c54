import StyleBuild.Build.Step
import StyleBuild.Compile.Directive
import StyleBuild.Path.Strip
import StyleBuild.Settings.File
import StyleBuild.Proofs.Path.Extension
import StyleBuild.Proofs.Path.Directory
import StyleBuild.Proofs.Settings.Accepted
import StyleBuild.Proofs.Settings.Tables
import StyleBuild.Proofs.Module.Memory
import StyleBuild.Proofs.Module.Location
import StyleBuild.Proofs.Module.Sharing
import StyleBuild.Proofs.Module.Spelling
import StyleBuild.Proofs.Module.Walk
import StyleBuild.Proofs.Module.Ascent
import StyleBuild.Proofs.Module.Chaining
import StyleBuild.Proofs.Compile.DepthFirst
import StyleBuild.Proofs.Compile.Sessions
import StyleBuild.Proofs.Compile.Questions
import StyleBuild.Proofs.Compile.Entry
import StyleBuild.Proofs.Host.Operations
import StyleBuild.Proofs.Build.Preparation
import StyleBuild.Proofs.Build.Turns
import StyleBuild.Proofs.Build.Completion
import StyleBuild.Proofs.Build.Composition
import StyleBuild.Proofs.Build.Recording
import StyleBuild.Proofs.Build.Pruning
import StyleBuild.Proofs.Build.Placement
import StyleBuild.Proofs.Build.Outputs
import StyleBuild.Proofs.Build.Survival
import StyleBuild.Proofs.Build.Order
import StyleBuild.Proofs.Build.Interruption
import StyleBuild.Proofs.Build.Untouched
import StyleBuild.Proofs.Build.Account
import StyleBuild.Proofs.Module.Address
import StyleBuild.Proofs.Module.Beside
import StyleBuild.Proofs.Build.Attribution
import StyleBuild.Proofs.Compile.Wording
import StyleBuild.Proofs.Build.Naming
import StyleBuild.Proofs.Settings.Written
import StyleBuild.Proofs.Settings.Complaints
import StyleBuild.Proofs.Module.Rewriting
import StyleBuild.Proofs.Settings.Flaws
import StyleBuild.Proofs.Settings.Documents
import StyleBuild.Proofs.Module.Calls
import StyleBuild.Proofs.Path.Repetition
import StyleBuild.Proofs.Pattern.Runs
import StyleBuild.Proofs.Path.ExtensionPattern
import StyleBuild.Proofs.Host.Representation
