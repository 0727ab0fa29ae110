import RowDrop.Backup
import RowDrop.Change
import RowDrop.Codec
import RowDrop.CommandLine.Arguments
import RowDrop.CommandLine.Filter
import RowDrop.CommandLine.Options
import RowDrop.CommandLine.Pattern
import RowDrop.CommandLine.Report
import RowDrop.CommandLine.Run
import RowDrop.CommandLine.Usage
import RowDrop.Content
import RowDrop.Dataset
import RowDrop.Decimal.Binary64
import RowDrop.Decimal.Shortest
import RowDrop.DomainName.Ascii
import RowDrop.DomainName.Composition
import RowDrop.DomainName.Direction
import RowDrop.DomainName.Joining
import RowDrop.DomainName.Mapping
import RowDrop.DomainName.Punycode
import RowDrop.DomainName.Table
import RowDrop.Environment
import RowDrop.Error
import RowDrop.Files.Access
import RowDrop.Files.Edit
import RowDrop.Files.Permission
import RowDrop.Files.Resolve
import RowDrop.Files.SystemError
import RowDrop.Files.Tree
import RowDrop.Frame
import RowDrop.Json.Failure
import RowDrop.Json.Number
import RowDrop.Json.Printer
import RowDrop.Json.Record
import RowDrop.Json.Token
import RowDrop.Json.Value
import RowDrop.Location
import RowDrop.Log
import RowDrop.Main
import RowDrop.Path
import RowDrop.Program
import RowDrop.Proofs.Addresses
import RowDrop.Proofs.Asking
import RowDrop.Proofs.Associations
import RowDrop.Proofs.CommandLine.Accepted
import RowDrop.Proofs.CommandLine.Choices
import RowDrop.Proofs.CommandLine.Front
import RowDrop.Proofs.CommandLine.Precedence
import RowDrop.Proofs.CommandLine.Spelling
import RowDrop.Proofs.Custody
import RowDrop.Proofs.Delivery
import RowDrop.Proofs.Failures
import RowDrop.Proofs.FileChanges
import RowDrop.Proofs.Files.BackupNames
import RowDrop.Proofs.Files.Calls
import RowDrop.Proofs.Files.Creating
import RowDrop.Proofs.Files.Damage
import RowDrop.Proofs.Files.Dangling
import RowDrop.Proofs.Files.Formed
import RowDrop.Proofs.Files.Frames
import RowDrop.Proofs.Files.Growth
import RowDrop.Proofs.Files.Leads
import RowDrop.Proofs.Files.Lookups
import RowDrop.Proofs.Files.Nodes
import RowDrop.Proofs.Files.Pairs
import RowDrop.Proofs.Files.Renaming
import RowDrop.Proofs.Files.Shares
import RowDrop.Proofs.Files.Slots
import RowDrop.Proofs.Files.Standing
import RowDrop.Proofs.Files.Tandem
import RowDrop.Proofs.Files.Walking
import RowDrop.Proofs.Files.Whole
import RowDrop.Proofs.Footprints
import RowDrop.Proofs.Frames
import RowDrop.Proofs.Interleaving
import RowDrop.Proofs.Json.CutRecords
import RowDrop.Proofs.Json.CutValues
import RowDrop.Proofs.Json.Cutting
import RowDrop.Proofs.Json.Grammar
import RowDrop.Proofs.Json.Overlay
import RowDrop.Proofs.Json.Printing
import RowDrop.Proofs.Json.Readers
import RowDrop.Proofs.Json.Records
import RowDrop.Proofs.Json.Tokens
import RowDrop.Proofs.Json.Values
import RowDrop.Proofs.Keys
import RowDrop.Proofs.Linked
import RowDrop.Proofs.Locations
import RowDrop.Proofs.Missing
import RowDrop.Proofs.Objects
import RowDrop.Proofs.Operations
import RowDrop.Proofs.PathParts
import RowDrop.Proofs.Recovery
import RowDrop.Proofs.RefusedKeys
import RowDrop.Proofs.Restoring
import RowDrop.Proofs.Runs
import RowDrop.Proofs.Settings.Given
import RowDrop.Proofs.Settings.Overlay
import RowDrop.Proofs.Settings.Truncated
import RowDrop.Proofs.Settings.Writing
import RowDrop.Proofs.SharedBackup
import RowDrop.Proofs.Staging
import RowDrop.Proofs.Successes
import RowDrop.Proofs.Territory
import RowDrop.Proofs.Text.Utf8
import RowDrop.Proofs.UndoSlot
import RowDrop.Proofs.Watching
import RowDrop.Settings.Basic
import RowDrop.Settings.Layers
import RowDrop.Settings.Load
import RowDrop.Settings.Printer
import RowDrop.Settings.Reader
import RowDrop.Store.Choice
import RowDrop.Store.Client
import RowDrop.Store.Failure
import RowDrop.Store.Host
import RowDrop.Store.Key
import RowDrop.Store.Objects
import RowDrop.Store.Percent
import RowDrop.Store.Url
import RowDrop.Text.Alphanumeric
import RowDrop.Text.Blank
import RowDrop.Text.Digits
import RowDrop.Text.Printable
import RowDrop.Text.Quoted
import RowDrop.Text.Runs
import RowDrop.Text.Similarity
import RowDrop.Text.Split
import RowDrop.Text.Utf8
import RowDrop.Transfer
