import Uplift.Cli
import Uplift.Cli.Command
import Uplift.Cli.Report
import Uplift.Cli.Scan
import Uplift.Codemod
import Uplift.CodemodRun
import Uplift.Config
import Uplift.Document
import Uplift.Double.Basic
import Uplift.Double.Reader
import Uplift.Double.Text
import Uplift.Duration
import Uplift.Engine
import Uplift.Engine.Summary
import Uplift.Error
import Uplift.Failure
import Uplift.Fault
import Uplift.Fields
import Uplift.Git
import Uplift.Glob
import Uplift.Json.Basic
import Uplift.Json.Number
import Uplift.Json.Parser
import Uplift.Json.Printer
import Uplift.Json.Record
import Uplift.Main
import Uplift.Manifest
import Uplift.PackageManager
import Uplift.Patch
import Uplift.Patch.Entry
import Uplift.Patch.Text
import Uplift.Path
import Uplift.Pointer
import Uplift.Process
import Uplift.Project
import Uplift.Project.Scan
import Uplift.Proofs.Requirement
import Uplift.Proofs.Runner
import Uplift.Proofs.Tree
import Uplift.Proofs.World
import Uplift.Range
import Uplift.Registry
import Uplift.Report
import Uplift.Report.Envelope
import Uplift.Report.Json
import Uplift.Report.Markdown
import Uplift.Report.Table
import Uplift.Repository
import Uplift.Requirement
import Uplift.Runner
import Uplift.Selection
import Uplift.Sort
import Uplift.Table
import Uplift.Target
import Uplift.Text.Blank
import Uplift.Text.Case
import Uplift.Text.Letter
import Uplift.Text.Numeral
import Uplift.Text.Split
import Uplift.Text.Title
import Uplift.Text.Width
import Uplift.Text.Word
import Uplift.Toml
import Uplift.Toml.Parser
import Uplift.Toml.Scalar
import Uplift.Transform
import Uplift.Tree
import Uplift.Upgrade
import Uplift.Upgrade.Requirements
import Uplift.Url
import Uplift.Version.Basic
import Uplift.Version.Text
import Uplift.World
import Uplift.Yaml.Cursor
import Uplift.Yaml.Node
import Uplift.Yaml.Scalar
import Uplift.Yaml.Token
import Uplift.Yaml.Value
import Uplift.Proofs.Upgrade.Course
import Uplift.Proofs.Project
import Uplift.Proofs.Upgrade.Effects
import Uplift.Proofs.Upgrade.Gate
import Uplift.Proofs.Manifest
import Uplift.Proofs.Upgrade.Dry
import Uplift.Proofs.Upgrade.Commit
import Uplift.Proofs.Text.Numeral
import Uplift.Proofs.Version.Order
import Uplift.Proofs.Repository
import Uplift.Proofs.Range
import Uplift.Proofs.Upgrade.Selected
import Uplift.Proofs.Codemod
import Uplift.Proofs.Repository.Uid
import Uplift.Proofs.Runner.Cache
import Uplift.Proofs.Upgrade.Major
import Uplift.Proofs.Fields
import Uplift.Proofs.Json.Token
import Uplift.Proofs.Json.Listed
import Uplift.Proofs.Json.RoundTrip
import Uplift.Proofs.Upgrade.Reload
import Uplift.Proofs.CodemodRun
import Uplift.Proofs.Document
import Uplift.Proofs.Requirement.Walk
import Uplift.Proofs.Tree.Overwrite
import Uplift.Proofs.Runner.Batch
import Uplift.Proofs.Requirement.Monotone
import Uplift.Proofs.Range.Text
import Uplift.Proofs.Text.Bytes
import Uplift.Proofs.Tree.Names
import Uplift.Proofs.Repository.Contents
import Uplift.Proofs.Repository.Session
import Uplift.Proofs.Glob
import Uplift.Proofs.Path
import Uplift.Proofs.Project.Scan
import Uplift.Proofs.Project.Session
import Uplift.Proofs.Runner.Foresight
import Uplift.Proofs.Document.Check
import Uplift.Proofs.Document.Merge
import Uplift.Proofs.Document.Remove
import Uplift.Proofs.Upgrade.Best
import Uplift.Proofs.Range.Grammar
import Uplift.Proofs.Manifest.Pins
import Uplift.Proofs.Repository.Queries
import Uplift.Proofs.Runner.Rerun
import Uplift.Proofs.Duration
import Uplift.Proofs.Engine.Summary
import Uplift.Proofs.Selection
import Uplift.Proofs.Text.Title
import Uplift.Proofs.Report.Markdown
import Uplift.Proofs.Cli
import Uplift.Proofs.Json.Record
import Uplift.Proofs.Report.Overflow
import Uplift.Proofs.Collection
import Uplift.Proofs.Repository.FileName
