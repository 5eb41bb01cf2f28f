import Lalr.Unicode.Blank
import Lalr.Unicode.Case
import Lalr.Unicode.Digit
import Lalr.Unicode.Identifier
import Lalr.Unicode.Printable
import Lalr.Unicode.Word
import Lalr.Text.Quoted
import Lalr.Text.Lines
import Lalr.Data.Basic
import Lalr.Data.Numeral
import Lalr.Data.Shown
import Lalr.Data.Writer
import Lalr.Data.Reader
import Lalr.Regex.Basic
import Lalr.Regex.Width
import Lalr.Regex.Matcher
import Lalr.Regex.Reader
import Lalr.Token
import Lalr.LineCounter
import Lalr.Grammar.Rule
import Lalr.Table.Grid
import Lalr.Forest.Basic
import Lalr.Forest.Shown
import Lalr.Forest.Equality
import Lalr.Forest.Order
import Lalr.Forest.Copy
import Lalr.Journal
import Lalr.Text.Context
import Lalr.Failure
import Lalr.Workspace
import Lalr.Lexer.Pattern
import Lalr.Lexer.Scanner
import Lalr.Lexer.Absorption
import Lalr.Lexer.Basic
import Lalr.Lexer.Contextual
import Lalr.Lexer.Layout
import Lalr.Lexer.Stream
import Lalr.Machine.Move
import Lalr.Machine.Feed
import Lalr.Traversal.Handler
import Lalr.Traversal.Transformer
import Lalr.Shaping.Plan
import Lalr.Shaping.Positions
import Lalr.Shaping.Reduction
import Lalr.Artifact.Stored
import Lalr.Artifact.Reader
import Lalr.Artifact.Objects
import Lalr.Artifact.Register
import Lalr.Artifact.Tables
import Lalr.Parser.Options
import Lalr.Parser.Basic
import Lalr.Parser.Session
import Lalr.Parser.Recovery
import Lalr.Parser.Examples
import Lalr.Parser.Store
import Lalr.Traversal.Visitor
import Lalr.Traversal.Interpreter
import Lalr.Data.Access
import Lalr.Forest.Document
import Lalr.Forest.Search
import Lalr.Artifact.Compact
import Lalr.Parser.Description
import Lalr.CommandLine.Arguments
import Lalr.CommandLine.Answer
import Lalr.Main
import Lalr.Proofs.Machine.Soundness
import Lalr.Proofs.Shaping.Parses
import Lalr.Proofs.Parser.Driving
import Lalr.Proofs.Parser.Balance
import Lalr.Proofs.Lexer.Narrowing
import Lalr.Proofs.Artifact.Objects
import Lalr.Proofs.Artifact.Register
import Lalr.Proofs.Artifact.Tables
import Lalr.Proofs.Parser.Options
import Lalr.Proofs.Parser.Storing
import Lalr.Proofs.Artifact.Lexers
import Lalr.Proofs.Parser.Loading
import Lalr.Proofs.Forest.Likeness
import Lalr.Proofs.Lexer.Ordering
import Lalr.Proofs.Lexer.Undisputed
import Lalr.Proofs.Parser.Coupling
import Lalr.Proofs.Parser.Recovery
import Lalr.Proofs.Parser.Acceptance
import Lalr.Proofs.Parser.Independence
import Lalr.Proofs.Parser.Narrowing
import Lalr.Proofs.Parser.Locating
import Lalr.Proofs.Parser.Resuming
import Lalr.Proofs.Forest.Appearances
import Lalr.Proofs.Shaping.Choosing
import Lalr.Proofs.Shaping.Entries
import Lalr.Proofs.Shaping.Evaluation
import Lalr.Proofs.Shaping.Inlining
import Lalr.Proofs.Forest.Descent
import Lalr.Proofs.Lexer.Nesting
import Lalr.Proofs.Lexer.Streaming
import Lalr.Proofs.Machine.Renaming
import Lalr.Proofs.Traversal.Flattening
import Lalr.Proofs.Forest.Cells
import Lalr.Proofs.Lexer.Sameness
import Lalr.Proofs.Parser.Accepting
import Lalr.Proofs.Parser.Inlining
import Lalr.Proofs.Parser.Placing
import Lalr.Proofs.Lexer.Preparing
import Lalr.Proofs.Lexer.Alternation
import Lalr.Proofs.Regex.Measuring
import Lalr.Proofs.Lexer.Forward
import Lalr.Proofs.Lexer.Replacing
import Lalr.Proofs.Lexer.Retyping
import Lalr.Proofs.Lexer.Pieces
import Lalr.Proofs.Lexer.Calling
import Lalr.Proofs.Parser.Filtering
import Lalr.Proofs.Parser.Expecting
import Lalr.Proofs.Artifact.Remains
import Lalr.Proofs.Parser.Remaking
import Lalr.Proofs.Traversal.Visits
import Lalr.Proofs.Traversal.InPlace
import Lalr.Proofs.Lexer.Rearranging
import Lalr.Proofs.Parser.Damage
import Lalr.Proofs.Parser.Draining
import Lalr.Proofs.Parser.Answering
import Lalr.Proofs.CommandLine.Answering
import Lalr.Proofs.Parser.Ranking
