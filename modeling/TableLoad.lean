import TableLoad.Command.Folder
import TableLoad.Main
import TableLoad.Proofs.Conversion.Sharing
import TableLoad.Proofs.Ddl.RoundTrip
import TableLoad.Proofs.Ddl.WellFormed
import TableLoad.Proofs.Report.Clips
import TableLoad.Proofs.Sql.Decoding
import TableLoad.Proofs.Sql.Scripts
import TableLoad.Proofs.Sql.Toggles
import TableLoad.Proofs.Ddl.Progress
import TableLoad.Proofs.Ddl.Comments
import TableLoad.Proofs.Ddl.Inside
import TableLoad.Proofs.Ddl.Alike
import TableLoad.Proofs.Ddl.AlikeTokens
import TableLoad.Proofs.Ddl.AlikeEntries
import TableLoad.Proofs.Ddl.EntryTexts
import TableLoad.Proofs.Ddl.PassedOver
import TableLoad.Proofs.Ddl.Classified
import TableLoad.Proofs.Ddl.Commented
import TableLoad.Proofs.Cell.Integers
import TableLoad.Proofs.Record.Meaning
import TableLoad.Proofs.Record.Document
import TableLoad.Proofs.Ddl.QuotedNames
import TableLoad.Proofs.Ddl.TextDefaults
import TableLoad.Proofs.Record.ZeroFractions
import TableLoad.Proofs.Sql.ColumnLists
import TableLoad.Proofs.Ddl.QuotedDefaults
import TableLoad.Proofs.Ddl.QuotedColumns
import TableLoad.Proofs.Ddl.TruthColumns
import TableLoad.Proofs.Schema.Precedence
import TableLoad.Proofs.Ddl.KeyDeclarations
import TableLoad.Proofs.Ddl.Parentheses
import TableLoad.Proofs.Record.Filling
import TableLoad.Proofs.Calendar.Written
import TableLoad.Proofs.Cell.Timestamps
import TableLoad.Proofs.Conversion.Policies
import TableLoad.Proofs.Report.Accounting
import TableLoad.Proofs.Schema.MemberWidths
import TableLoad.Proofs.Ddl.Nesting
import TableLoad.Proofs.Ddl.Positions
import TableLoad.Proofs.Ddl.ConstraintOrder
import TableLoad.Proofs.Cell.Serials
