import IconImports.Base36
import IconImports.CommandLine.Arguments
import IconImports.CommandLine.Run
import IconImports.Decimal.Layout
import IconImports.Decimal.Shortest
import IconImports.Entry
import IconImports.FileSystem
import IconImports.FileTree
import IconImports.Glob
import IconImports.Glob.Token
import IconImports.Host
import IconImports.Log
import IconImports.Main
import IconImports.ModuleId
import IconImports.Options
import IconImports.Options.Error
import IconImports.Options.Number
import IconImports.Options.Scalar
import IconImports.OrderedMap
import IconImports.Path
import IconImports.Plugin
import IconImports.Preview
import IconImports.Proofs.CommandLine.Concluded
import IconImports.Proofs.CommandLine.Logged
import IconImports.Proofs.FileTree.Open
import IconImports.Proofs.Glob.Canonical
import IconImports.Proofs.Glob.Expanded
import IconImports.Proofs.Glob.Matched
import IconImports.Proofs.Host.Simulated
import IconImports.Proofs.ImportList.Read
import IconImports.Proofs.Json.Reads
import IconImports.Proofs.Json.Strings
import IconImports.Proofs.List.Mapped
import IconImports.Proofs.ModuleId.Ordered
import IconImports.Proofs.Options.Accepted
import IconImports.Proofs.Options.Written
import IconImports.Proofs.Path.Order
import IconImports.Proofs.Plugin.Append
import IconImports.Proofs.Plugin.Exports
import IconImports.Proofs.Plugin.Failure
import IconImports.Proofs.Plugin.Generated
import IconImports.Proofs.Plugin.Lookup
import IconImports.Proofs.Plugin.Reexports
import IconImports.Proofs.Plugin.Rescan
import IconImports.Proofs.Plugin.Run
import IconImports.Proofs.Plugin.Serve
import IconImports.Proofs.Plugin.Sliced
import IconImports.Proofs.Plugin.Splice
import IconImports.Proofs.Plugin.Stored
import IconImports.Proofs.Plugin.Told
import IconImports.Proofs.Plugin.Transform
import IconImports.Proofs.Preview.Append
import IconImports.Proofs.Preview.Emitted
import IconImports.Proofs.Preview.Files
import IconImports.Proofs.Preview.Reported
import IconImports.Proofs.Preview.Told
import IconImports.Proofs.Registry.Capacity
import IconImports.Proofs.Registry.Numbered
import IconImports.Proofs.Registry.Run
import IconImports.Proofs.Report.Document
import IconImports.Proofs.Scan.Append
import IconImports.Proofs.Scan.Complete
import IconImports.Proofs.Scan.Cut
import IconImports.Proofs.Scan.Pattern
import IconImports.Proofs.Scan.Read
import IconImports.Proofs.Scan.Search
import IconImports.Proofs.Scan.Within
import IconImports.Proofs.Text.Bytes
import IconImports.Registry
import IconImports.Report
import IconImports.Report.Json
import IconImports.Segments
import IconImports.Statement
import IconImports.Text.Blank
import IconImports.Text.Extent
import IconImports.Text.Pieces
import IconImports.Text.Printable
import IconImports.Text.Terminal
