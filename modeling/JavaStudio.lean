import JavaStudio.About
import JavaStudio.Act
import JavaStudio.Background.Pool
import JavaStudio.Background.Queue
import JavaStudio.Compiler.Diagnostic
import JavaStudio.Compiler.Javac
import JavaStudio.Compiler.Registry
import JavaStudio.Encoding.Basic
import JavaStudio.Encoding.Flaw
import JavaStudio.Encoding.Utf16
import JavaStudio.Encoding.Utf8
import JavaStudio.Event
import JavaStudio.Failure
import JavaStudio.Files.Basic
import JavaStudio.Files.Resolve
import JavaStudio.Files.Tree
import JavaStudio.Files.Walk
import JavaStudio.Files.Written
import JavaStudio.Host
import JavaStudio.Interactions.History
import JavaStudio.Interactions.Launch
import JavaStudio.Json.Basic
import JavaStudio.Json.Printer
import JavaStudio.Json.Reader
import JavaStudio.Log.Book
import JavaStudio.Log.File
import JavaStudio.Log.Level
import JavaStudio.Log.Logger
import JavaStudio.Number.Basic
import JavaStudio.Number.Binary64
import JavaStudio.Number.Numeral
import JavaStudio.Number.Shortest
import JavaStudio.Path
import JavaStudio.Proofs.Act
import JavaStudio.Proofs.Background.Drain
import JavaStudio.Proofs.Compiler.Blocks
import JavaStudio.Proofs.Compiler.Lines
import JavaStudio.Proofs.Compiler.Verdict
import JavaStudio.Proofs.Encoding.Exact
import JavaStudio.Proofs.Event
import JavaStudio.Proofs.Files.Apart
import JavaStudio.Proofs.Files.Calls
import JavaStudio.Proofs.Files.Distinct
import JavaStudio.Proofs.Files.Found
import JavaStudio.Proofs.Files.Frame
import JavaStudio.Proofs.Files.Leads
import JavaStudio.Proofs.Files.LinkFree
import JavaStudio.Proofs.Files.Locate
import JavaStudio.Proofs.Files.Moved
import JavaStudio.Proofs.Files.Names
import JavaStudio.Proofs.Files.Parent
import JavaStudio.Proofs.Files.Tree
import JavaStudio.Proofs.Interactions.History
import JavaStudio.Proofs.Interactions.Launch
import JavaStudio.Proofs.Json.Ascii
import JavaStudio.Proofs.Json.Proper
import JavaStudio.Proofs.Json.Number
import JavaStudio.Proofs.Json.ReadBack
import JavaStudio.Proofs.Json.Scalar
import JavaStudio.Proofs.Labelled
import JavaStudio.Proofs.Log.SetUp
import JavaStudio.Proofs.Number.Digits
import JavaStudio.Proofs.Number.Rounding
import JavaStudio.Proofs.Number.Shortest
import JavaStudio.Proofs.Settings.Content
import JavaStudio.Proofs.Settings.Document
import JavaStudio.Proofs.Settings.Layers
import JavaStudio.Proofs.Settings.Load
import JavaStudio.Proofs.Settings.Save
import JavaStudio.Proofs.Settings.Touched
import JavaStudio.Proofs.Settings.Upgrade
import JavaStudio.Proofs.Source.Atomic
import JavaStudio.Proofs.Source.Brackets
import JavaStudio.Proofs.Source.Climb
import JavaStudio.Proofs.Source.Cursor
import JavaStudio.Proofs.Source.Detection
import JavaStudio.Proofs.Source.Header
import JavaStudio.Proofs.Source.LineEnds
import JavaStudio.Proofs.Source.LineStart
import JavaStudio.Proofs.Source.ReadBack
import JavaStudio.Proofs.Source.RoundTrip
import JavaStudio.Proofs.Source.Scratch
import JavaStudio.Proofs.Source.Write
import JavaStudio.Proofs.Studio.AllOrNothing
import JavaStudio.Proofs.Studio.Background
import JavaStudio.Proofs.Studio.Balance
import JavaStudio.Proofs.Studio.Books
import JavaStudio.Proofs.Studio.Choosing
import JavaStudio.Proofs.Studio.Classpath
import JavaStudio.Proofs.Studio.Clean
import JavaStudio.Proofs.Studio.Clearing
import JavaStudio.Proofs.Studio.Close
import JavaStudio.Proofs.Studio.Compile
import JavaStudio.Proofs.Studio.Consent
import JavaStudio.Proofs.Studio.Delivery
import JavaStudio.Proofs.Studio.Desk
import JavaStudio.Proofs.Studio.Dialogue
import JavaStudio.Proofs.Studio.Documents
import JavaStudio.Proofs.Studio.Faces
import JavaStudio.Proofs.Studio.Foreground
import JavaStudio.Proofs.Studio.Indent
import JavaStudio.Proofs.Studio.LifeCycle
import JavaStudio.Proofs.Studio.Methods
import JavaStudio.Proofs.Studio.OnFile
import JavaStudio.Proofs.Studio.Overlap
import JavaStudio.Proofs.Studio.Poll
import JavaStudio.Proofs.Studio.Recall
import JavaStudio.Proofs.Studio.Recent
import JavaStudio.Proofs.Studio.Reload
import JavaStudio.Proofs.Studio.Restart
import JavaStudio.Proofs.Studio.Roots
import JavaStudio.Proofs.Studio.Runs
import JavaStudio.Proofs.Studio.Scenes
import JavaStudio.Proofs.Studio.Step
import JavaStudio.Proofs.Studio.Stories
import JavaStudio.Proofs.Studio.Submissions
import JavaStudio.Proofs.Studio.Submit
import JavaStudio.Proofs.Studio.Surroundings
import JavaStudio.Report
import JavaStudio.Scenario.Play
import JavaStudio.Scenario.Run
import JavaStudio.Scenario.Stage
import JavaStudio.Scenario.Step
import JavaStudio.Settings.Basic
import JavaStudio.Settings.Compilers
import JavaStudio.Settings.Schema
import JavaStudio.Settings.Store
import JavaStudio.Source.Buffer
import JavaStudio.Source.File
import JavaStudio.Source.Package
import JavaStudio.Source.Place
import JavaStudio.Studio.Basic
import JavaStudio.Studio.Bus
import JavaStudio.Studio.Cast
import JavaStudio.Studio.Command
import JavaStudio.Studio.Compiling
import JavaStudio.Studio.Desk
import JavaStudio.Studio.Lifetime
import JavaStudio.Studio.Methods
import JavaStudio.Studio.Script
import JavaStudio.Studio.Session
import JavaStudio.Studio.Workspace
import JavaStudio.Text.Basic
import JavaStudio.Text.Blank
import JavaStudio.Text.Digit
import JavaStudio.Text.Lines
import JavaStudio.Text.Lower
import JavaStudio.Text.LowerTable
import JavaStudio.Text.PrintableTable
import JavaStudio.Text.Quoted
import JavaStudio.Text.Word
import JavaStudio.Text.WordTable
