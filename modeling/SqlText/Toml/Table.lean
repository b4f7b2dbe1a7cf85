import SqlText.Toml.Value

/-!
# Tables under construction

A TOML document adds to its tables line by line, and it may add to a table only
in certain ways, which depend on how the table came into being.

* A header opens the table it names.  It may open a table that so far exists only
  because another header named a table inside it, and no other.
* A dotted key reaches through tables that came from dotted keys or that are
  implied by headers, and ends in a table that came from a dotted key.
* A header in double brackets appends a table to an array of tables.  A path
  through such an array leads through its last table.
* A value, an inline table among them, is complete once written.
-/

namespace SqlText.Toml

/-- How a table came into being. -/
inductive Origin
  /-- A header opened it, or it is the document itself. -/
  | header
  /-- A header named a table inside it. -/
  | implied
  /-- A dotted key reached through it. -/
  | dotted
deriving DecidableEq

mutual

/-- What a key of a table under construction stands for. -/
inductive Entry
  | value (value : Value)
  | table (table : OpenTable)
  | tables (earlier : List OpenTable) (last : OpenTable)

/-- A table under construction. -/
structure OpenTable where
  origin : Origin
  entries : List (String × Entry)

end

namespace OpenTable

/-- An empty table. -/
def empty (origin : Origin) : OpenTable :=
  ⟨origin, []⟩

/-- What a key stands for. -/
def find? (table : OpenTable) (key : String) : Option Entry :=
  table.entries.lookup key

/-- The table with another meaning for a key that it has, or with a new key. -/
def set (table : OpenTable) (key : String) (entry : Entry) : OpenTable :=
  if table.entries.any fun known => known.1 == key then
    { table with entries :=
        table.entries.map fun known => if known.1 == key then (key, entry) else known }
  else { table with entries := table.entries ++ [(key, entry)] }

/-- Changes the table at the end of a path.  Missing tables on the way are created
with origin `origin`; when that is `dotted`, tables with a header are out of
bounds. -/
def change (origin : Origin) (f : OpenTable → Option OpenTable) :
    List String → OpenTable → Option OpenTable
  | [], table => f table
  | key :: path, table =>
      match table.find? key with
      | none => do
          let inner ← change origin f path (empty origin)
          return table.set key (.table inner)
      | some (.table inner) =>
          if origin = .dotted ∧ inner.origin = .header then none
          else do
            let inner ← change origin f path inner
            return table.set key (.table inner)
      | some (.tables earlier last) => do
          let last ← change origin f path last
          return table.set key (.tables earlier last)
      | some (.value _) => none

/-- Gives a new key a value. -/
def insert (key : String) (value : Value) (table : OpenTable) : Option OpenTable :=
  match table.find? key with
  | none => some (table.set key (.value value))
  | some _ => none

/-- Gives a new key a value in the table that a dotted path leads to. -/
def insertAt (path : List String) (key : String) (value : Value) (table : OpenTable) :
    Option OpenTable :=
  change .dotted (fun inner =>
    if path ≠ [] ∧ inner.origin ≠ .dotted then none else inner.insert key value) path table

/-- Opens the table that a header names. -/
def openTable (path : List String) (key : String) (table : OpenTable) : Option OpenTable :=
  change .implied (fun outer =>
    match outer.find? key with
    | none => some (outer.set key (.table (empty .header)))
    | some (.table inner) =>
        if inner.origin = .implied then
          some (outer.set key (.table { inner with origin := .header }))
        else none
    | some _ => none) path table

/-- Appends a table to the array that a header names. -/
def appendTable (path : List String) (key : String) (table : OpenTable) : Option OpenTable :=
  change .implied (fun outer =>
    match outer.find? key with
    | none => some (outer.set key (.tables [] (empty .header)))
    | some (.tables earlier last) =>
        some (outer.set key (.tables (earlier ++ [last]) (empty .header)))
    | some _ => none) path table

end OpenTable

mutual

/-- The value of a finished entry. -/
def Entry.finished : Entry → Value
  | .value value => value
  | .table table => .table table.finished
  | .tables earlier last => .array (finishedTables earlier ++ [.table last.finished])

/-- The entries of a finished table. -/
def OpenTable.finished : OpenTable → Table
  | ⟨_, entries⟩ => finishedEntries entries

private def finishedEntries : List (String × Entry) → Table
  | [] => []
  | (key, entry) :: rest => (key, entry.finished) :: finishedEntries rest

private def finishedTables : List OpenTable → List Value
  | [] => []
  | table :: rest => .table table.finished :: finishedTables rest

end

end SqlText.Toml
