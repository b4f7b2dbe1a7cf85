import SqlText.Toml.Table
import SqlText.Toml.Text
import SqlText.Toml.Word

/-!
# TOML documents

A document is a sequence of lines: headers, keys with values, comments and empty
lines.  Reading it yields its table, or nothing if the text is no document.

Arrays and inline tables nest, but not without limit: `room` says how many more
brackets and braces may be open at a time.  Between the brackets or braces, lines
may end and comments may stand before and after each part.

The readers of values recurse on a bound for the number of steps.  Every two steps
take at least one character, and the bound is chosen accordingly, so it is never
reached.
-/

namespace SqlText.Toml

/-- Drops a comment at the front.  It extends to the end of the line. -/
def skipComment : Reader Unit := fun text =>
  match text with
  | '#' :: rest =>
      let isInLine := fun c : Char => c != '\n' && c != '\r'
      if (rest.takeWhile isInLine).any isForbidden then none
      else some ((), rest.dropWhile isInLine)
  | _ => some ((), text)

/-- Drops blanks, comments and ends of lines at the front, in at most `fuel`
lines. -/
def skipLinesWithin : (fuel : Nat) → Reader Unit
  | 0 => pure ()
  | fuel + 1 => do
      skipBlanks
      skipComment
      let text ← get
      let rest := dropLineEnd text
      if rest.length < text.length then
        set rest
        skipLinesWithin fuel

/-- Drops blanks, comments and ends of lines at the front. -/
def skipLines : Reader Unit := fun text =>
  skipLinesWithin (text.length + 1) text

/-- Drops the given character at the front, after blanks. -/
def expect (c : Char) : Reader Unit := do
  skipBlanks
  match ← get with
  | found :: rest => if found = c then set rest else failure
  | [] => failure

/-- Reads a truth value, a number or a moment. -/
def readWord : Reader Value := fun text =>
  let (word, rest) := splitWord text
  (wordValue? word).map fun value => (value, rest)

mutual

/-- Reads a value. -/
def readValueWithin : (fuel room : Nat) → Reader Value
  | 0, _ => failure
  | fuel + 1, room => do
      match ← get, room with
      | '"' :: _, _ => return .string (← readString)
      | '\x27' :: _, _ => return .string (← readString)
      | '[' :: rest, room + 1 => do
          set rest
          return .array (← readElementsWithin fuel room)
      | '{' :: rest, room + 1 => do
          set rest
          return .table (← readPairsWithin fuel room (.empty .header)).finished
      | _, _ => readWord

/-- Reads the elements of an array and the bracket after them. -/
def readElementsWithin : (fuel room : Nat) → Reader (List Value)
  | 0, _ => failure
  | fuel + 1, room => do
      skipLines
      match ← get with
      | ']' :: rest => do
          set rest
          return []
      | _ => do
          let value ← readValueWithin fuel room
          skipLines
          match ← get with
          | ',' :: rest => do
              set rest
              return value :: (← readElementsWithin fuel room)
          | ']' :: rest => do
              set rest
              return [value]
          | _ => failure

/-- Reads the pairs of an inline table into a table, and the brace after them. -/
def readPairsWithin : (fuel room : Nat) → OpenTable → Reader OpenTable
  | 0, _, _ => failure
  | fuel + 1, room, table => do
      skipLines
      match ← get with
      | '}' :: rest => do
          set rest
          return table
      | _ => do
          let (path, key) ← readPath
          skipLines
          expect '='
          skipLines
          let value ← readValueWithin fuel room
          let table ← table.insertAt path key value
          skipLines
          match ← get with
          | ',' :: rest => do
              set rest
              readPairsWithin fuel room table
          | '}' :: rest => do
              set rest
              return table
          | _ => failure

end

/-- Reads a value. -/
def readValue : Reader Value := fun text =>
  readValueWithin (2 * text.length + 2) maxDepth text

/-- Where a document stands: its table so far, and the path of the last header. -/
structure Progress where
  root : OpenTable
  current : List String

/-- Drops what may follow on a line, and the end of the line. -/
def endLine : Reader Unit := do
  skipBlanks
  skipComment
  match ← get with
  | [] => return ()
  | '\n' :: rest => set rest
  | '\r' :: '\n' :: rest => set rest
  | _ => failure

/-- Reads one line, and the further lines of a value that begins on it. -/
def readEntry (progress : Progress) : Reader Progress := do
  skipBlanks
  match ← get with
  | [] => return progress
  | '#' :: _ => return progress
  | '\n' :: _ => return progress
  | '\r' :: _ => return progress
  | '[' :: '[' :: rest => do
      set rest
      let (path, key) ← readPath
      expect ']'
      match ← get with
      | ']' :: rest => set rest
      | _ => failure
      return ⟨← progress.root.appendTable path key, path ++ [key]⟩
  | '[' :: rest => do
      set rest
      let (path, key) ← readPath
      expect ']'
      return ⟨← progress.root.openTable path key, path ++ [key]⟩
  | _ => do
      let (path, key) ← readPath
      expect '='
      skipBlanks
      let value ← readValue
      let root ← progress.root.change .implied (OpenTable.insertAt path key value)
        progress.current
      return { progress with root }

/-- Reads the lines of a document, at most `fuel` of them. -/
def readEntriesWithin : (fuel : Nat) → Progress → Reader Progress
  | 0, progress => pure progress
  | fuel + 1, progress => do
      let progress ← readEntry progress
      endLine
      match ← get with
      | [] => return progress
      | _ => readEntriesWithin fuel progress

/-- The table of a document.  A byte order mark at its start is ignored. -/
def parse? (text : String) : Option Table := do
  let characters :=
    match text.toList with
    | '\ufeff' :: rest => rest
    | characters => characters
  let (progress, rest) ←
    (readEntriesWithin (characters.length + 1) ⟨.empty .header, []⟩).run characters
  if rest.isEmpty then some progress.root.finished else none

end SqlText.Toml
