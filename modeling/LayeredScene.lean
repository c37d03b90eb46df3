import LayeredScene.Mesh.Check
import LayeredScene.Scene.Check
import LayeredScene.Samples
import LayeredScene.Main
import LayeredScene.Proofs.Compilation.Objects
import LayeredScene.Proofs.Source.Lines
import LayeredScene.Proofs.Bytes
import LayeredScene.Proofs.Compilation.Accounting
import LayeredScene.Proofs.Compilation.Resources
import LayeredScene.Proofs.Source.BlockTypes
import LayeredScene.Proofs.Mesh.Surfaces
import LayeredScene.Proofs.Compilation.LetterCase
import LayeredScene.Proofs.Compilation.Concatenation
import LayeredScene.Proofs.Glb.NodeTree
import LayeredScene.Proofs.Compilation.Files
import LayeredScene.Proofs.Compilation.KeylessLines
import LayeredScene.Proofs.Compilation.ObjectTypes
import LayeredScene.Proofs.Compilation.Totality
import LayeredScene.Proofs.Scene.Json
import LayeredScene.Proofs.Scene.Influence
import LayeredScene.Proofs.Compilation.Layout
import LayeredScene.Proofs.Compilation.Outlines
import LayeredScene.Proofs.CommandLine.Runs
import LayeredScene.Proofs.Statement.Loop
import LayeredScene.Proofs.Object.Pushes
import LayeredScene.Proofs.Output.GlbFiles
import LayeredScene.Proofs.CommandLine.Groups
import LayeredScene.Proofs.CommandLine.Refusals
import LayeredScene.Proofs.Measurements
import LayeredScene.Proofs.Glb.Colors
import LayeredScene.Proofs.Object.Json
import LayeredScene.Proofs.Mesh.Seeds
import LayeredScene.Proofs.Scene.Checks
import LayeredScene.Proofs.Glb.Bounds
import LayeredScene.Proofs.Settings.Files
