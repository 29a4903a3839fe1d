import ViewNaming.CommandLine.Arguments
import ViewNaming.CommandLine.Program
import ViewNaming.Component.Call
import ViewNaming.Component.Injection
import ViewNaming.Component.Patch
import ViewNaming.Disk
import ViewNaming.Grammar.LineEnd
import ViewNaming.Grammar.Rule
import ViewNaming.Grammar.Scan
import ViewNaming.Literal
import ViewNaming.Log
import ViewNaming.Log.Stamp
import ViewNaming.Main
import ViewNaming.Path
import ViewNaming.Proofs.Component.Block
import ViewNaming.Proofs.Component.Call
import ViewNaming.Proofs.Component.Fixed
import ViewNaming.Proofs.Component.Injection
import ViewNaming.Proofs.Component.Marker
import ViewNaming.Proofs.Component.Overwriting
import ViewNaming.Proofs.Component.Quoting
import ViewNaming.Proofs.Component.Renaming
import ViewNaming.Proofs.Component.Replacement
import ViewNaming.Proofs.Component.Scalar
import ViewNaming.Proofs.Component.Scope
import ViewNaming.Proofs.Component.Statement
import ViewNaming.Proofs.Component.TagName
import ViewNaming.Proofs.Disk
import ViewNaming.Proofs.Exclusion
import ViewNaming.Proofs.Grammar.Placing
import ViewNaming.Proofs.Grammar.Scan
import ViewNaming.Proofs.Literal
import ViewNaming.Proofs.Path
import ViewNaming.Proofs.Report
import ViewNaming.Proofs.Route.Comments
import ViewNaming.Proofs.Route.Listing
import ViewNaming.Proofs.Route.ModuleScope
import ViewNaming.Proofs.Route.Object
import ViewNaming.Proofs.Route.Reading
import ViewNaming.Proofs.Run.Again
import ViewNaming.Proofs.Run.Batch
import ViewNaming.Proofs.Run.Breakdown
import ViewNaming.Proofs.Run.Bytes
import ViewNaming.Proofs.Run.Confined
import ViewNaming.Proofs.Run.Courses
import ViewNaming.Proofs.Run.Messages
import ViewNaming.Proofs.Run.Named
import ViewNaming.Proofs.Run.Spelling
import ViewNaming.Proofs.Run.Step
import ViewNaming.Proofs.Run.Stopped
import ViewNaming.Proofs.Run.Twice
import ViewNaming.Proofs.Task
import ViewNaming.Proofs.Text.Decoding
import ViewNaming.Proofs.Text.Encoding
import ViewNaming.Proofs.Text.Pieces
import ViewNaming.Proofs.Text.Scalar
import ViewNaming.Proofs.Text.Search
import ViewNaming.Proofs.Text.Trim
import ViewNaming.Proofs.Text.Validity
import ViewNaming.Proofs.Tree.Address
import ViewNaming.Proofs.Tree.Place
import ViewNaming.Proofs.Tree.Preorder
import ViewNaming.Proofs.Tree.StackWalk
import ViewNaming.Proofs.TypeScript.Placing
import ViewNaming.Report
import ViewNaming.Route.Basic
import ViewNaming.Route.Extraction
import ViewNaming.Run.Components
import ViewNaming.Run.Routes
import ViewNaming.Run.Views
import ViewNaming.Task
import ViewNaming.Text.Basic
import ViewNaming.Text.CodePoint
import ViewNaming.Text.Printable
import ViewNaming.Text.Quoted
import ViewNaming.Text.UpperCase
import ViewNaming.Text.Utf8
import ViewNaming.Text.Word
import ViewNaming.Tree.Kind
import ViewNaming.Tree.Node
import ViewNaming.TypeScript.Expressions
import ViewNaming.TypeScript.Parse
import ViewNaming.TypeScript.Statements
import ViewNaming.TypeScript.Symbol
import ViewNaming.TypeScript.Types
