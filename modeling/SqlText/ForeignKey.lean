import SqlText.Column

/-!
# Foreign keys

A foreign key pairs columns of one table with columns of another.  Two foreign
keys count as equal when their key columns have the same names and so do their
reference columns, in whatever order; names are taken with the names of their
tables.  The same names are what a foreign key hands to a hash function.
-/

namespace SqlText

/-- Checks that key and reference columns can form a foreign key of a table. -/
def checkForeignKey (keys references : List Column) (owner : Table) : Except Fault Unit := do
  if keys.isEmpty || references.isEmpty then
    throw .foreignKeyWithoutColumns
  if keys.length ≠ references.length then
    throw (.foreignKeyLengths keys.length references.length)
  if let some stray := keys.find? fun key => key.table != owner.name then
    throw (.foreignKeyStrayColumn stray.qualifiedName owner.name)
  if references.any fun reference =>
      references.head?.any fun first => reference.table != first.table then
    throw .foreignKeyScattered

/-- Columns of a table that refer to columns of one table. -/
structure ForeignKey where
  keys : List Column
  references : List Column
deriving Repr

namespace ForeignKey

/-- The foreign key of a table with the given columns, if they fit. -/
def of (keys references : List Column) (owner : Table) : Except Fault ForeignKey := do
  checkForeignKey keys references owner
  return ⟨keys, references⟩

/-- The name of the table that is referred to. -/
def referenceTable (key : ForeignKey) : String :=
  (key.references.head?.map Column.table).getD ""

/-- The text of a foreign key. -/
def text (key : ForeignKey) (dialect : Dialect) : String :=
  "FOREIGN KEY (" ++ Column.listText key.keys dialect ++ ") REFERENCES " ++
    dialect.identifier key.referenceTable ++ " (" ++
    Column.listText key.references dialect ++ ")"

/-- Puts a name into a list of names in ascending order, unless it is there. -/
def insertName (name : String) : List String → List String
  | [] => [name]
  | first :: rest =>
      if name < first then name :: first :: rest
      else if name = first then first :: rest
      else first :: insertName name rest

/-- The names of columns in ascending order, each once. -/
def nameSet (columns : List Column) : List String :=
  columns.foldr (fun column names => insertName column.qualifiedName names) []

/-- What tells foreign keys apart: the names of the key columns and those of the
reference columns. -/
def identity (key : ForeignKey) : List String × List String :=
  (nameSet key.keys, nameSet key.references)

instance : BEq ForeignKey :=
  ⟨fun key other => key.identity == other.identity⟩

/-! ## Hashing -/

/-- A piece of what a hash function is fed. -/
inductive HashInput
  /-- How many texts follow. -/
  | count (size : Nat)
  | text (content : String)
deriving DecidableEq, Hashable, Repr

/-- What a set of names feeds to a hash function: their number, then each of them. -/
def hashInputsOf (names : List String) : List HashInput :=
  .count names.length :: names.map .text

/-- What a foreign key feeds to a hash function: the names of the key columns, then
those of the reference columns. -/
def hashInputs (key : ForeignKey) : List HashInput :=
  hashInputsOf key.identity.1 ++ hashInputsOf key.identity.2

/-- The hash of a foreign key under the hash function `digest`. -/
def hashBy (digest : List HashInput → UInt64) (key : ForeignKey) : UInt64 :=
  digest key.hashInputs

end ForeignKey

end SqlText
