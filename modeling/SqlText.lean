import SqlText.Dialect.Description
import SqlText.Dialect.Setting
import SqlText.Execution
import SqlText.ForeignKey
import SqlText.Placeholder.Binding
import SqlText.Proofs.Dialect.LastWrite
import SqlText.Proofs.ForeignKey.Pairing
import SqlText.Proofs.Placeholder.Filling
import SqlText.Proofs.Placeholder.Fragments
import SqlText.Proofs.Placeholder.Splitting
import SqlText.Proofs.Statement.Anonymous
import SqlText.Proofs.Statement.Apart
import SqlText.Proofs.Statement.Arguments
import SqlText.Proofs.Statement.Folds
import SqlText.Proofs.Statement.Forged
import SqlText.Proofs.Statement.Log
import SqlText.Proofs.Statement.Readable
import SqlText.Proofs.Statement.Resolved
import SqlText.Proofs.Statement.Settings
import SqlText.Proofs.Statement.Shape
import SqlText.Statement.Equality
import SqlText.Proofs.Dialect.Quoting
import SqlText.Proofs.Index.Columns
import SqlText.Proofs.Placeholder.Decoding
import SqlText.Proofs.Dialect.Reloading
