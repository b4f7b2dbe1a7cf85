import SqlText.Toml.Value

/-!
# Strings and keys of TOML

TOML has four kinds of strings: basic ones between double quotes, in which a
backslash starts an escape, and literal ones between single quotes, each of them
on one line or, between triple quotes, on several.  The line ends inside a string
of several lines belong to it as they are written.  A key is a bare word or a
one-line string, and dots join keys to a path.
-/

namespace SqlText.Toml

/-- A reader takes characters from the front of a text or refuses the text. -/
abbrev Reader := StateT (List Char) Option

/-- A blank within a line. -/
def isBlank (c : Char) : Bool :=
  c == ' ' || c == '\t'

/-- A control character, which may stand in no string or comment.  A tab may. -/
def isForbidden (c : Char) : Bool :=
  (c.toNat < 0x20 && c != '\t') || c.toNat == 0x7F

/-- Drops the blanks at the front. -/
def skipBlanks : Reader Unit :=
  modify (·.dropWhile isBlank)

/-- The character whose number has the given hexadecimal digits.  Surrogates and
numbers beyond the last character have none. -/
def character? (digits : List Char) : Option Char :=
  let number := numberOf 16 digits
  if digits.all (isDigitOf 16) ∧ number.isValidChar then some (Char.ofNat number) else none

/-- The character that a one-letter escape stands for. -/
def escaped? : Char → Option Char
  | 'b' => some '\x08'
  | 'e' => some '\x1b'
  | 't' => some '\t'
  | 'n' => some '\n'
  | 'f' => some '\x0c'
  | 'r' => some '\r'
  | '"' => some '"'
  | '\\' => some '\\'
  | _ => none

/-- A character in front of what a reader of the rest found. -/
private def pushed (c? : Option Char) (rest : Option (List Char × List Char)) :
    Option (List Char × List Char) :=
  c?.bind fun c => rest.map fun found => (c :: found.1, found.2)

/-- A character that stands for itself, unless it may not. -/
private def plain? (c : Char) : Option Char :=
  if isForbidden c then none else some c

/-- The rest of a basic string on one line, up to its closing quote. -/
def basicRest : List Char → Option (List Char × List Char)
  | [] => none
  | '"' :: rest => some ([], rest)
  | '\\' :: 'x' :: a :: b :: rest => pushed (character? [a, b]) (basicRest rest)
  | '\\' :: 'u' :: a :: b :: c :: d :: rest => pushed (character? [a, b, c, d]) (basicRest rest)
  | '\\' :: 'U' :: a :: b :: c :: d :: e :: f :: g :: h :: rest =>
      pushed (character? [a, b, c, d, e, f, g, h]) (basicRest rest)
  | '\\' :: c :: rest => pushed (escaped? c) (basicRest rest)
  | c :: rest => pushed (plain? c) (basicRest rest)

/-- The rest of a literal string on one line, up to its closing quote. -/
def literalRest : List Char → Option (List Char × List Char)
  | [] => none
  | '\x27' :: rest => some ([], rest)
  | c :: rest => pushed (plain? c) (literalRest rest)

/-- Whether a text starts with blanks and the end of a line. -/
def startsWithLineEnd (text : List Char) : Bool :=
  match text.dropWhile isBlank with
  | '\n' :: _ => true
  | '\r' :: '\n' :: _ => true
  | _ => false

/-- The rest of a basic string on several lines, up to its closing quotes.  Up to
two quotes may stand right before those.  A backslash at the end of a line removes
the blanks and line ends after it; `joining` says that such a gap is being read. -/
def basicLinesRest : (joining : Bool) → List Char → Option (List Char × List Char)
  | _, [] => none
  | true, ' ' :: rest => basicLinesRest true rest
  | true, '\t' :: rest => basicLinesRest true rest
  | true, '\n' :: rest => basicLinesRest true rest
  | true, '\r' :: '\n' :: rest => basicLinesRest true rest
  | _, '"' :: '"' :: '"' :: '"' :: '"' :: rest => some (['"', '"'], rest)
  | _, '"' :: '"' :: '"' :: '"' :: rest => some (['"'], rest)
  | _, '"' :: '"' :: '"' :: rest => some ([], rest)
  | _, '\\' :: 'x' :: a :: b :: rest =>
      pushed (character? [a, b]) (basicLinesRest false rest)
  | _, '\\' :: 'u' :: a :: b :: c :: d :: rest =>
      pushed (character? [a, b, c, d]) (basicLinesRest false rest)
  | _, '\\' :: 'U' :: a :: b :: c :: d :: e :: f :: g :: h :: rest =>
      pushed (character? [a, b, c, d, e, f, g, h]) (basicLinesRest false rest)
  | _, '\\' :: c :: rest =>
      if startsWithLineEnd (c :: rest) then basicLinesRest true rest
      else pushed (escaped? c) (basicLinesRest false rest)
  | _, '\r' :: '\n' :: rest =>
      pushed (some '\r') (pushed (some '\n') (basicLinesRest false rest))
  | _, '\n' :: rest => pushed (some '\n') (basicLinesRest false rest)
  | _, c :: rest => pushed (plain? c) (basicLinesRest false rest)

/-- The rest of a literal string on several lines, up to its closing quotes. -/
def literalLinesRest : List Char → Option (List Char × List Char)
  | [] => none
  | '\x27' :: '\x27' :: '\x27' :: '\x27' :: '\x27' :: rest => some (['\x27', '\x27'], rest)
  | '\x27' :: '\x27' :: '\x27' :: '\x27' :: rest => some (['\x27'], rest)
  | '\x27' :: '\x27' :: '\x27' :: rest => some ([], rest)
  | '\r' :: '\n' :: rest => pushed (some '\r') (pushed (some '\n') (literalLinesRest rest))
  | '\n' :: rest => pushed (some '\n') (literalLinesRest rest)
  | c :: rest => pushed (plain? c) (literalLinesRest rest)

/-- The text without the end of a line at its front. -/
def dropLineEnd : List Char → List Char
  | '\n' :: rest => rest
  | '\r' :: '\n' :: rest => rest
  | text => text

/-- Reads a string on one line. -/
def readLine : Reader String := fun text =>
  match text with
  | '"' :: rest => (basicRest rest).map fun found => (String.ofList found.1, found.2)
  | '\x27' :: rest => (literalRest rest).map fun found => (String.ofList found.1, found.2)
  | _ => none

/-- Reads a string of any kind.  The end of a line right after opening triple
quotes does not belong to the string. -/
def readString : Reader String := fun text =>
  match text with
  | '"' :: '"' :: '"' :: rest =>
      (basicLinesRest false (dropLineEnd rest)).map fun found => (String.ofList found.1, found.2)
  | '\x27' :: '\x27' :: '\x27' :: rest =>
      (literalLinesRest (dropLineEnd rest)).map fun found => (String.ofList found.1, found.2)
  | _ => readLine text

/-- A character of a bare key. -/
def isBareKey (c : Char) : Bool :=
  c.isAlphanum || c == '-' || c == '_'

/-- Reads a key. -/
def readKey : Reader String := fun text =>
  match text with
  | '"' :: _ => readLine text
  | '\x27' :: _ => readLine text
  | _ =>
      let word := text.takeWhile isBareKey
      if word.isEmpty then none else some (String.ofList word, text.dropWhile isBareKey)

/-- Reads keys joined by dots, with blanks around each, into a path and its last
key.  At most `fuel` keys are read. -/
def readPathWithin : (fuel : Nat) → Reader (List String × String)
  | 0 => failure
  | fuel + 1 => do
      skipBlanks
      let key ← readKey
      skipBlanks
      match ← get with
      | '.' :: rest => do
          set rest
          let (path, last) ← readPathWithin fuel
          return (key :: path, last)
      | _ => return ([], key)

/-- Reads keys joined by dots into a path and its last key.  There may be as many
keys as values may nest. -/
def readPath : Reader (List String × String) :=
  readPathWithin maxDepth

end SqlText.Toml
