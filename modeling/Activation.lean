import Activation.CommandLine
import Activation.Condition
import Activation.Config
import Activation.Config.Decode
import Activation.Config.Load
import Activation.Coordinator
import Activation.DotEnv
import Activation.Environment
import Activation.Environment.Source
import Activation.Error
import Activation.Exclusion
import Activation.Files.Error
import Activation.Files.Path
import Activation.Files.System
import Activation.Files.Tree
import Activation.Filter
import Activation.IdSet
import Activation.Increasing
import Activation.Index
import Activation.Index.Loader
import Activation.Index.Text
import Activation.Main
import Activation.Ordering.Constraint
import Activation.Ordering.Graph
import Activation.Ordering.Sort
import Activation.Proofs.Condition.Property
import Activation.Proofs.Condition.Toggle
import Activation.Proofs.Config.Load
import Activation.Proofs.Config.Registry
import Activation.Proofs.Coordinator
import Activation.Proofs.Coordinator.Calls
import Activation.Proofs.Coordinator.Regrouping
import Activation.Proofs.Coordinator.Withdrawal
import Activation.Proofs.EntryList
import Activation.Proofs.Environment
import Activation.Proofs.Environment.Layers
import Activation.Proofs.Environment.Overrides
import Activation.Proofs.Environment.Variables
import Activation.Proofs.Exclusion
import Activation.Proofs.Extensionality
import Activation.Proofs.Filter
import Activation.Proofs.Filter.Calls
import Activation.Proofs.Filter.Failures
import Activation.Proofs.Filter.Slots
import Activation.Proofs.Filter.Verdicts
import Activation.Proofs.ImportList
import Activation.Proofs.Index.Frame
import Activation.Proofs.Index.Grammar
import Activation.Proofs.Index.Loader
import Activation.Proofs.Index.Rearrangement
import Activation.Proofs.Index.Views
import Activation.Proofs.Ordering.Band
import Activation.Proofs.Ordering.Chains
import Activation.Proofs.Ordering.Cycle
import Activation.Proofs.Ordering.Edges
import Activation.Proofs.Ordering.Graph
import Activation.Proofs.Ordering.Loop
import Activation.Proofs.Ordering.Progress
import Activation.Proofs.Ordering.Sort
import Activation.Proofs.Path
import Activation.Proofs.Placement
import Activation.Proofs.Resolver.Accounting
import Activation.Proofs.Resolver.Agreement
import Activation.Proofs.Resolver.Course
import Activation.Proofs.Resolver.History
import Activation.Proofs.Resolver.Merge
import Activation.Proofs.Resolver.Misplaced
import Activation.Proofs.Resolver.Report
import Activation.Proofs.Resolver.Run
import Activation.Proofs.Text
import Activation.Proofs.Traversal
import Activation.Property
import Activation.Registry
import Activation.Report
import Activation.Resolver
import Activation.Session
import Activation.Site
import Activation.Table
import Activation.Text.Blank
import Activation.Text.Caseless
import Activation.Text.Decimal
import Activation.Text.Json
import Activation.Text.Quoted
import Activation.Text.Shown
import Activation.Text.Split
import Activation.Text.WordChar
import Activation.Toml.Datetime
import Activation.Toml.Document
import Activation.Toml.Node
import Activation.Toml.Number
import Activation.Toml.Quoted
import Activation.Toml.Scanner
