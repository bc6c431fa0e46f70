import ReactBridge.FileSystem
import ReactBridge.Main
import ReactBridge.Proofs.Go.Lexical
import ReactBridge.Proofs.Go.Lexeme
import ReactBridge.Proofs.Go.Ahead
import ReactBridge.Proofs.Go.Coverage
import ReactBridge.Proofs.Go.Semicolon
import ReactBridge.Proofs.Go.Relex
import ReactBridge.Proofs.Go.Print
import ReactBridge.Proofs.Go.ReadBack
import ReactBridge.Proofs.Go.Image
import ReactBridge.Proofs.Go.LineEnd
import ReactBridge.Proofs.Go.LexicalError
import ReactBridge.Proofs.Go.Simulation
import ReactBridge.Proofs.Go.Parts
import ReactBridge.Proofs.Go.ErrorSpan
import ReactBridge.Proofs.Go.Routine
import ReactBridge.Proofs.Go.Routine.Type
import ReactBridge.Proofs.Go.Routine.File
import ReactBridge.Proofs.Go.Skipped
import ReactBridge.Proofs.Declaration
import ReactBridge.Proofs.Declaration.Extract
import ReactBridge.Proofs.FileSystem
import ReactBridge.Proofs.FileSystem.Tree
import ReactBridge.Proofs.Path.Join
import ReactBridge.Proofs.Text
import ReactBridge.Proofs.Java.Document
import ReactBridge.Proofs.Java.Writer
import ReactBridge.Proofs.Java.Append
import ReactBridge.Proofs.Java.History
import ReactBridge.Proofs.Java.Nesting
import ReactBridge.Proofs.Bridge.Name
import ReactBridge.Proofs.Bridge.Template
import ReactBridge.Proofs.Bridge.Builder
import ReactBridge.Proofs.Bridge.Lifecycle
import ReactBridge.Proofs.FileSystem.Store
import ReactBridge.Proofs.FileSystem.Overlay
import ReactBridge.Proofs.Go.Package
import ReactBridge.Proofs.Bridge.Write
import ReactBridge.Proofs.Run.Contents
import ReactBridge.Proofs.Run.Underway
import ReactBridge.Proofs.Run.Independence
import ReactBridge.Proofs.FileSystem.Confined
import ReactBridge.Proofs.Java.Interleaving
import ReactBridge.Proofs.FileSystem.Way
import ReactBridge.Proofs.Bridge.Course
import ReactBridge.Proofs.Bridge.Agreement
import ReactBridge.Proofs.Run.Inspect
import ReactBridge.Proofs.Go.Grouping
import ReactBridge.Proofs.Go.Listed
import ReactBridge.Proofs.Run.Account
import ReactBridge.Proofs.Source
import ReactBridge.Proofs.FileSystem.Create
import ReactBridge.Proofs.Go.Quoted
import ReactBridge.Proofs.Go.SearchPath
import ReactBridge.Proofs.Go.Bracket
import ReactBridge.Proofs.Go.Cursor
import ReactBridge.Proofs.Go.Progress
import ReactBridge.Proofs.Go.Progress.Type
import ReactBridge.Proofs.Go.Progress.File
import ReactBridge.Proofs.Report.Shown
