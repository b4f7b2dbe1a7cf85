import SqlText.Dialect.Basic

/-!
# Text with placeholders

A statement is written before the numbers of its placeholders are known.  Until
then it is a sequence of pieces: text that is final, and places where a parameter
goes.  Such a sequence is encoded as plain text by marking every place with the
characters `U+0001` to `U+0006`, so that it can be combined with text from elsewhere.
Text that comes from data must hold none of these characters, or it could be taken
for a mark.

The numbering of the places works on that encoding.  The marks of unnamed parameters
split it into fragments, and a placeholder of the dialect is put where each mark was;
the placeholders are counted from `1`, from left to right.
-/

/-! ## Reserved characters -/

namespace SqlText.Text

/-- The six characters from which placeholder marks are made. -/
def isReserved (c : Char) : Bool :=
  '\x01' ≤ c && c ≤ '\x06'

/-- Whether a text holds a reserved character. -/
def hasReserved (text : String) : Bool :=
  text.toList.any isReserved

theorem hasReserved_eq_false_iff {text : String} :
    hasReserved text = false ↔ ∀ c ∈ text.toList, isReserved c = false := by
  simp [hasReserved]

@[simp] theorem hasReserved_append (left right : String) :
    hasReserved (left ++ right) = (hasReserved left || hasReserved right) := by
  simp [hasReserved]

end SqlText.Text

namespace SqlText

/-! ## Pieces and their encoding -/

/-- A piece of a statement being written. -/
inductive Piece
  /-- Text that is final. -/
  | text (text : String)
  /-- The place of a parameter that is known by its position. -/
  | slot
  /-- The place of a parameter that is known by its name. -/
  | named (name : String)
deriving DecidableEq, Repr

/-- A statement, or a part of one, being written. -/
abbrev Markup := List Piece

/-- The mark of a place that is known by its position. -/
def slotMark : String := "\x01\x02\x03\x04"

/-- The mark before the name of a place. -/
def nameStart : String := "\x05\x06"

/-- The mark after the name of a place. -/
def nameEnd : String := "\x06\x05"

/-- The encoding of a piece. -/
def Piece.encode : Piece → String
  | text content => content
  | slot => slotMark
  | named name => nameStart ++ name ++ nameEnd

namespace Markup

/-- Final text. -/
def text (text : String) : Markup :=
  [.text text]

/-- Parts with a text between every two of them. -/
def joined (separator : String) : List Markup → Markup
  | [] => []
  | [part] => part
  | part :: rest => part ++ text separator ++ joined separator rest

/-- The encoding of a sequence of pieces. -/
def encode (markup : Markup) : String :=
  String.join (markup.map Piece.encode)

@[simp] theorem encode_nil : encode [] = "" := rfl

@[simp] theorem encode_cons (piece : Piece) (markup : Markup) :
    encode (piece :: markup) = piece.encode ++ encode markup := by
  simp [encode]

@[simp] theorem encode_append (first second : Markup) :
    encode (first ++ second) = encode first ++ encode second := by
  simp [encode]

end Markup

/-! ## Parameters -/

/-- A parameter, with or without a name. -/
structure Parameter where
  name? : Option String
deriving DecidableEq, Repr

namespace Parameter

/-- A parameter that is known by its position. -/
def unnamed : Parameter := ⟨none⟩

/-- A parameter that is known by its name. -/
def named (name : String) : Parameter := ⟨some name⟩

/-- Writes a parameter.  A name must not be empty and must be free of reserved
characters. -/
def render (dialect : Dialect) : Parameter → Except Fault Markup
  | ⟨none⟩ => .ok [.slot]
  | ⟨some name⟩ =>
      if name = "" then .error .emptyParameterName
      else if Text.hasReserved name then .error (.reservedInParameterName name)
      else match dialect.text? .namedParameter with
        | some marker => .ok (Markup.text (marker ++ name))
        | none => .ok [.named name]

end Parameter

/-! ## Numbering -/

/-- The fragments between the marks of unnamed parameters: the text before the
first mark, and the text after each. -/
def splitSlots : List Char → List Char × List (List Char)
  | [] => ([], [])
  | '\x01' :: '\x02' :: '\x03' :: '\x04' :: rest =>
      let (head, tail) := splitSlots rest
      ([], head :: tail)
  | c :: rest =>
      let (head, tail) := splitSlots rest
      (c :: head, tail)

/-- The number of marks of unnamed parameters in a text. -/
def countSlots (text : String) : Nat :=
  (splitSlots text.toList).2.length

/-- Fragments, each after the placeholder at its position. -/
def fillSlots (dialect : Dialect) : (position : Nat) → List (List Char) → List Char
  | _, [] => []
  | position, fragment :: rest =>
      (dialect.placeholder position).toList ++ fragment ++ fillSlots dialect (position + 1) rest

/-- Replaces the marks of unnamed parameters by placeholders. -/
def numberSlots (dialect : Dialect) (text : String) : String :=
  let (head, tail) := splitSlots text.toList
  String.ofList (head ++ fillSlots dialect 1 tail)

end SqlText
