import Switchboard.Aliases
import Switchboard.Aliases.Document
import Switchboard.Aliases.Load
import Switchboard.Arguments
import Switchboard.Board
import Switchboard.Board.Start
import Switchboard.Commands
import Switchboard.Console.Clock
import Switchboard.Console.Demo
import Switchboard.Console.Options
import Switchboard.Console.Script
import Switchboard.Console.Session
import Switchboard.Decimal.Binary64
import Switchboard.Decimal.Read
import Switchboard.Decimal.Shortest
import Switchboard.Dictionary
import Switchboard.Fault
import Switchboard.Files
import Switchboard.Follower
import Switchboard.Follower.Pursue
import Switchboard.Help
import Switchboard.Inspect
import Switchboard.Journal
import Switchboard.Json.Token
import Switchboard.Json.Value
import Switchboard.Main
import Switchboard.Outcome
import Switchboard.Outside
import Switchboard.Proofs.Aliases
import Switchboard.Proofs.Aliases.Definitions
import Switchboard.Proofs.Arguments
import Switchboard.Proofs.Binary64
import Switchboard.Proofs.Board.Agreement
import Switchboard.Proofs.Board.Delivery
import Switchboard.Proofs.Board.Ledger
import Switchboard.Proofs.Board.Operations
import Switchboard.Proofs.Board.Scene
import Switchboard.Proofs.Board.Shutdown
import Switchboard.Proofs.Board.Slot
import Switchboard.Proofs.Chain
import Switchboard.Proofs.Commands.Descent
import Switchboard.Proofs.Commands.Dispatch
import Switchboard.Proofs.Commands.Expansion
import Switchboard.Proofs.Commands.Recorded
import Switchboard.Proofs.Commands.Reports
import Switchboard.Proofs.Commands.Runner
import Switchboard.Proofs.Commands.Worlds
import Switchboard.Proofs.Console.Account
import Switchboard.Proofs.Console.Clock
import Switchboard.Proofs.Console.Demo
import Switchboard.Proofs.Console.Modes
import Switchboard.Proofs.Console.Session
import Switchboard.Proofs.Decimal
import Switchboard.Proofs.Dictionary
import Switchboard.Proofs.Follower
import Switchboard.Proofs.Follower.Compared
import Switchboard.Proofs.Follower.Ends
import Switchboard.Proofs.Follower.Links
import Switchboard.Proofs.Follower.Order
import Switchboard.Proofs.Follower.Relay
import Switchboard.Proofs.Help
import Switchboard.Proofs.Outside
import Switchboard.Proofs.Outside.Conduct
import Switchboard.Proofs.Outside.Looks
import Switchboard.Proofs.Regex
import Switchboard.Proofs.Routes.Parts
import Switchboard.Proofs.Routes.Patterns
import Switchboard.Proofs.Routes.Proposals
import Switchboard.Proofs.Routing
import Switchboard.Proofs.Template.Chart
import Switchboard.Proofs.Template.Concatenation
import Switchboard.Proofs.Template.Decomposition
import Switchboard.Proofs.Template.Engine
import Switchboard.Proofs.Template.Expression
import Switchboard.Proofs.Template.Faults
import Switchboard.Proofs.Template.Matching
import Switchboard.Proofs.Template.Separation
import Switchboard.Proofs.Text.Lines
import Switchboard.Records
import Switchboard.Routes
import Switchboard.Settings
import Switchboard.Settings.Document
import Switchboard.Settings.Environment
import Switchboard.Template.Basic
import Switchboard.Template.Compile
import Switchboard.Template.Match
import Switchboard.Text.Blank
import Switchboard.Text.Glyph
import Switchboard.Text.Interval
import Switchboard.Text.Lines
import Switchboard.Text.Quoted
import Switchboard.Text.Utf8
import Switchboard.Yaml.Cursor
import Switchboard.Yaml.Event
import Switchboard.Yaml.Gap
import Switchboard.Yaml.Lexer
import Switchboard.Yaml.Names
import Switchboard.Yaml.Node
import Switchboard.Yaml.Scalar
import Switchboard.Yaml.Scalars
import Switchboard.Yaml.Token
import Switchboard.Yaml.Value
