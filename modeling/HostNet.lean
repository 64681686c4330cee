import HostNet.Text.Blank
import HostNet.Text.Digit
import HostNet.Text.Unprintable
import HostNet.Text.Quoted
import HostNet.Text.Inert
import HostNet.Text.Utf8
import HostNet.Text.Pieces
import HostNet.Duration
import HostNet.Address.Ip
import HostNet.Address.Basic
import HostNet.Hwaddr
import HostNet.Config.Basic
import HostNet.Validation.Problem
import HostNet.Validation.Basic
import HostNet.Json.Binary64
import HostNet.Json.Basic
import HostNet.Json.Reader
import HostNet.Schema.Failure
import HostNet.Schema.Record
import HostNet.Json.Format
import HostNet.Config.Fields
import HostNet.Config.Json
import HostNet.Config.ProxyEnvironment
import HostNet.Command.Line
import HostNet.Command.Tools
import HostNet.Command.Report
import HostNet.Host.Failure
import HostNet.Host.Path
import HostNet.Host.FileTree
import HostNet.Host.FileAccess
import HostNet.Host.Basic
import HostNet.Host.Running
import HostNet.Host.Script
import HostNet.Apply.Stage
import HostNet.Apply.Steps
import HostNet.Apply.Wait
import HostNet.Apply.Basic
import HostNet.Lifecycle
import HostNet.Application
import HostNet.Invocation
import HostNet.Session
import HostNet.Shell.Tree
import HostNet.Shell.Reader
import HostNet.Shell.Arithmetic
import HostNet.Shell.Printing
import HostNet.Shell.Condition
import HostNet.Shell.Tool
import HostNet.Shell.State
import HostNet.Shell.Evaluation
import HostNet.Shell.Runner
import HostNet.Yaml.Cursor
import HostNet.Yaml.Scalar
import HostNet.Yaml.Property
import HostNet.Yaml.Token
import HostNet.Yaml.Node
import HostNet.Yaml.Format
import HostNet.Config.Document
import HostNet.Toml.Quoted
import HostNet.Toml.Table
import HostNet.Toml.Scalar
import HostNet.Toml.Reader
import HostNet.Toml.Format
import HostNet.Settings.Basic
import HostNet.Settings.Document
import HostNet.Unit.Basic
import HostNet.Main
import HostNet.Proofs.Text.Pieces
import HostNet.Proofs.Hwaddr
import HostNet.Proofs.Validation.WellFormed
import HostNet.Proofs.Validation.Faults
import HostNet.Proofs.Unit.Names
import HostNet.Proofs.Host.Action
import HostNet.Proofs.Host.Path
import HostNet.Proofs.Host.Tree
import HostNet.Proofs.Host.Access
import HostNet.Proofs.Host.Commands
import HostNet.Proofs.Host.Time
import HostNet.Proofs.Apply.Probes
import HostNet.Proofs.Host.Confined
import HostNet.Proofs.Host.Rooted
import HostNet.Proofs.Apply.Steps
import HostNet.Proofs.Apply.Order
import HostNet.Proofs.Apply.Deadline
import HostNet.Proofs.Host.Answers
import HostNet.Proofs.Apply.Convergence
import HostNet.Proofs.Apply.Written
import HostNet.Proofs.Apply.Directory
import HostNet.Proofs.Apply.Bounds
import HostNet.Proofs.Apply.Lasting
import HostNet.Proofs.Apply.Installed
import HostNet.Proofs.Apply.Containment
import HostNet.Proofs.Apply.Writable
import HostNet.Proofs.Address
import HostNet.Proofs.Address.Prefix
import HostNet.Proofs.Command.Line
import HostNet.Proofs.Shell.Quoted
import HostNet.Proofs.Command.Entry
import HostNet.Proofs.Command.Listing
import HostNet.Proofs.Unit.Reading
import HostNet.Proofs.Unit.Template
import HostNet.Proofs.Unit.Unbroken
import HostNet.Proofs.Unit.Settings
import HostNet.Proofs.Unit.Devices
import HostNet.Proofs.Unit.Precedence
import HostNet.Proofs.Unit.Cards
import HostNet.Proofs.Unit.BridgeVlan
import HostNet.Proofs.Unit.Ports
import HostNet.Proofs.Unit.Addressing
import HostNet.Proofs.Unit.OwnEnd
import HostNet.Proofs.Unit.Parents
import HostNet.Proofs.Apply.Awaited
import HostNet.Proofs.Unit.AddedVlan
import HostNet.Proofs.Unit.Reordered
import HostNet.Proofs.Yaml.Remarks
import HostNet.Proofs.Yaml.Unvalued
import HostNet.Proofs.Config.Missing
import HostNet.Proofs.Lifecycle
import HostNet.Proofs.Host.Cancellation
import HostNet.Proofs.Apply.Cancellation
import HostNet.Proofs.Schema.Members
import HostNet.Proofs.Json.Same
import HostNet.Proofs.Config.RoundTrip
import HostNet.Proofs.Config.ProxyEnvironment
import HostNet.Proofs.Host.Failing
import HostNet.Proofs.Application
import HostNet.Proofs.Apply.Stages
import HostNet.Proofs.Apply.Rounds
import HostNet.Proofs.Unit.LetterCase
import HostNet.Proofs.Host.Attempt
import HostNet.Proofs.Host.Script
