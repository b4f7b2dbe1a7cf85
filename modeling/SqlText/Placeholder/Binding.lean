import SqlText.Placeholder.Markup
import SqlText.Placeholder.Positions

/-!
# Resolving names and binding values to them

In a dialect without a marker for names, named parameters are numbered like any
others.  Resolving a text puts a placeholder where each name was and keeps a
record of the positions that every name got, so that a value given for a name can
be passed on at all of them.

The mark of a name has a start and an end.  A name extends to the first end after
its start, whatever stands between; a start without an end makes the text
unreadable.

Values that are given for names are laid out in the order in which a statement
expects its arguments: the value of a name goes to every position of that name.
Every name needs a value, and every position must belong to some name.
-/

namespace SqlText

/-! ## Resolving names -/

mutual

/-- Splits a text into the fragment before the first name, and every name with the
fragment after it. -/
def splitNames? : List Char → Option (List Char × List (List Char × List Char))
  | [] => some ([], [])
  | '\x05' :: '\x06' :: rest => do
      let (name, fragment, tail) ← splitInName? rest
      return ([], (name, fragment) :: tail)
  | c :: rest => do
      let (head, tail) ← splitNames? rest
      return (c :: head, tail)

/-- Splits a text that starts within a name into the rest of that name, the
fragment after it, and the names and fragments that follow. -/
def splitInName? : List Char → Option (List Char × List Char × List (List Char × List Char))
  | [] => none
  | '\x06' :: '\x05' :: rest => do
      let (fragment, tail) ← splitNames? rest
      return ([], fragment, tail)
  | c :: rest => do
      let (name, fragment, tail) ← splitInName? rest
      return (c :: name, fragment, tail)

end

/-- Whether the start of a name stands somewhere in a text. -/
def holdsName : List Char → Bool
  | [] => false
  | '\x05' :: '\x06' :: _ => true
  | _ :: rest => holdsName rest

/-- Whether a text holds the mark of a named parameter. -/
def hasNames (text : String) : Bool :=
  holdsName text.toList

/-- Fragments, each after the placeholder at the position of the name before it. -/
def fillNames (dialect : Dialect) : (position : Nat) → List (List Char × List Char) → List Char
  | _, [] => []
  | position, (_, fragment) :: rest =>
      (dialect.placeholder position).toList ++ fragment ++ fillNames dialect (position + 1) rest

/-- A text whose names have become placeholders. -/
structure NamedText where
  text : String
  /-- The positions that each name got. -/
  positions : Positions
  /-- The number of placeholders. -/
  count : Nat
deriving DecidableEq

/-- Replaces the names in a text by placeholders. -/
def resolveNames (dialect : Dialect) (text : String) : Except Fault NamedText :=
  match splitNames? text.toList with
  | none => .error .unterminatedName
  | some (head, tail) =>
      .ok {
        text := String.ofList (head ++ fillNames dialect 1 tail)
        positions := .ofNames (tail.map fun entry => String.ofList entry.1)
        count := tail.length }

/-! ## Binding values -/

/-- Puts a value into the slots at the given positions, which count from `1`. -/
def putValue (value : Value) (positions : List Nat) (slots : List (Option Value)) :
    List (Option Value) :=
  positions.foldl (fun slots position => slots.set (position - 1) (some value)) slots

/-- Puts the values of names into their slots, name after name. -/
def putValues (values : String → Option Value) :
    List (String × List Nat) → List (Option Value) → Except Fault (List (Option Value))
  | [], slots => .ok slots
  | (name, positions) :: rest, slots =>
      match values name with
      | some value => putValues values rest (putValue value positions slots)
      | none => .error (.unboundParameter name)

/-- The values of slots, all of which must be filled.  The first slot is the one at
`position`. -/
def takeValues : (position : Nat) → List (Option Value) → Except Fault (List Value)
  | _, [] => .ok []
  | position, none :: _ => .error (.unfilledPosition position)
  | position, some value :: rest => do
      return value :: (← takeValues (position + 1) rest)

/-- The arguments of a statement whose names have become placeholders. -/
def NamedText.bind (named : NamedText) (values : String → Option Value) :
    Except Fault (List Value) := do
  let slots ← putValues values named.positions.entries (List.replicate named.count none)
  takeValues 1 slots

end SqlText
