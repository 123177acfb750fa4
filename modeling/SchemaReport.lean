import SchemaReport.Clock
import SchemaReport.Column
import SchemaReport.CommandLine.Arguments
import SchemaReport.CommandLine.Commands
import SchemaReport.CommandLine.LogFilter
import SchemaReport.CommandLine.Program
import SchemaReport.Conversion.Batch
import SchemaReport.Conversion.BatchReport
import SchemaReport.Conversion.Failure
import SchemaReport.Conversion.Target
import SchemaReport.Environment
import SchemaReport.Environment.VariableFile
import SchemaReport.Files.Path
import SchemaReport.Files.Tree
import SchemaReport.Json.Document
import SchemaReport.Json.Printer
import SchemaReport.Json.Reader
import SchemaReport.Json.Table
import SchemaReport.Log
import SchemaReport.Logged
import SchemaReport.Main
import SchemaReport.Naming
import SchemaReport.Proofs.Conversion.Accounting
import SchemaReport.Proofs.Conversion.AnyOrder
import SchemaReport.Proofs.Conversion.Appending
import SchemaReport.Proofs.Conversion.Batches
import SchemaReport.Proofs.Conversion.Collecting
import SchemaReport.Proofs.Conversion.Overriding
import SchemaReport.Proofs.Conversion.ReportNames
import SchemaReport.Proofs.Conversion.Running
import SchemaReport.Proofs.Conversion.SchemaNames
import SchemaReport.Proofs.Conversion.Sources
import SchemaReport.Proofs.Files.Growing
import SchemaReport.Proofs.Files.Making
import SchemaReport.Proofs.Files.Pieces
import SchemaReport.Proofs.Files.Plain
import SchemaReport.Proofs.Json.Completeness
import SchemaReport.Proofs.Json.Grammar
import SchemaReport.Proofs.Json.Machine
import SchemaReport.Proofs.Json.Nesting
import SchemaReport.Proofs.Json.TableText
import SchemaReport.Proofs.Naming.Words
import SchemaReport.Proofs.Report.Calls
import SchemaReport.Proofs.Report.Decoding
import SchemaReport.Proofs.Report.History
import SchemaReport.Proofs.Report.JsonTemplate
import SchemaReport.Proofs.Report.Layout
import SchemaReport.Proofs.Report.Lockstep
import SchemaReport.Proofs.Report.Rendering
import SchemaReport.Proofs.Report.Telling
import SchemaReport.Proofs.Scan.Acceptance
import SchemaReport.Proofs.Scan.Canonical
import SchemaReport.Proofs.Scan.Clean
import SchemaReport.Proofs.Scan.Columns
import SchemaReport.Proofs.Scan.Ending
import SchemaReport.Proofs.Scan.Faults
import SchemaReport.Proofs.Scan.Finality
import SchemaReport.Proofs.Scan.Independence
import SchemaReport.Proofs.Scan.Inheriting
import SchemaReport.Proofs.Scan.Names
import SchemaReport.Proofs.Scan.Reading
import SchemaReport.Proofs.Scan.Refusals
import SchemaReport.Proofs.Scan.Reordering
import SchemaReport.Proofs.Scan.Still
import SchemaReport.Proofs.Scan.Stored
import SchemaReport.Proofs.Scan.Warnings
import SchemaReport.Proofs.Scan.Window
import SchemaReport.Proofs.Schema.Classes
import SchemaReport.Proofs.Schema.Values
import SchemaReport.Proofs.Script.Logging
import SchemaReport.Proofs.Script.SideBySide
import SchemaReport.Proofs.Settings.Loading
import SchemaReport.Report.Builder
import SchemaReport.Scan.Draft
import SchemaReport.Scan.Scanner
import SchemaReport.Scan.Source
import SchemaReport.Schema.Directive
import SchemaReport.Script
import SchemaReport.Settings.Decode
import SchemaReport.Settings.Expansion
import SchemaReport.Settings.Loading
import SchemaReport.Settings.Reading
import SchemaReport.Settings.Template
import SchemaReport.Text.Alphanumeric
import SchemaReport.Text.Case
import SchemaReport.Text.Characters
import SchemaReport.Text.Extending
import SchemaReport.Text.Printable
import SchemaReport.Toml.Assembly
import SchemaReport.Toml.Reader
import SchemaReport.Toml.Scalar
import SchemaReport.Toml.Text
import SchemaReport.Toml.Token
import SchemaReport.World
