import RouteAtlas.Json.Value

/-!
# Writing documents

A document is written either on one line or with one item per line, each level indented further.
Characters are written as they are, but for quotes, backslashes and controls. Writing yields pieces
one after the other: an item of a list is one piece with the comma before it, and so is every part
of a field. Where a list or an object begins, a piece without characters says how deep it lies.
Whoever encodes the document encodes it piece by piece, and may stop at an integer whose numeral is
too long or at a list that lies too deep.
-/

namespace RouteAtlas.Json

/-- A hexadecimal digit in lower case. -/
def hexDigit (n : Nat) : Char := Nat.digitChar (n % 16)

/-- Four hexadecimal digits. -/
def fourHex (n : Nat) : Text :=
  [hexDigit (n / 4096), hexDigit (n / 256), hexDigit (n / 16), hexDigit n]

/-- How one code point of a string is written. -/
def quotePoint : CodePoint → CodeText
  | .char '"' => .ofText ['\\', '"']
  | .char '\\' => .ofText ['\\', '\\']
  | .char '\n' => .ofText ['\\', 'n']
  | .char '\r' => .ofText ['\\', 'r']
  | .char '\t' => .ofText ['\\', 't']
  | .char '\x08' => .ofText ['\\', 'b']
  | .char '\x0c' => .ofText ['\\', 'f']
  | point => if point.code < 32 then .ofText ('\\' :: 'u' :: fourHex point.code) else [point]

/-- A string between quotes. -/
def quote (s : CodeText) : CodeText :=
  .char '"' :: s.flatMap quotePoint ++ [.char '"']

/-- How the parts of lists and objects are set apart. -/
structure Layout where
  /-- Blanks by which each level is indented; none puts everything on one line. -/
  indent : Option Nat
  /-- What follows the comma between items on one line. -/
  afterComma : Text := [' ']
  /-- What follows a key. -/
  afterKey : Text := [':', ' ']

/-- What stands before an item on the given level, after the opening bracket or a comma. -/
def Layout.newline (layout : Layout) (level : Nat) : Text :=
  match layout.indent with
  | none => []
  | some width => '\n' :: List.replicate (width * level) ' '

/-- What stands between two items on the given level. -/
def Layout.separator (layout : Layout) (level : Nat) : Text :=
  match layout.indent with
  | none => ',' :: layout.afterComma
  | some _ => ',' :: layout.newline level

/-- A part of a document that is written at once: some text, or an integer with what precedes it. -/
inductive Piece where
  | text (s : CodeText)
  | integer (lead : Text) (n : Int)
  /-- A list or an object begins, and with it so many lie inside one another. -/
  | nested (level : Nat)

/-- What a piece adds to the document. -/
def Piece.code : Piece → CodeText
  | .text s => s
  | .integer lead n => .ofText (lead ++ Text.ofInt n)
  | .nested _ => []

/-- A value that holds no others, and what precedes it. -/
def scalarPiece (lead : Text) : Json → Piece
  | .null => .text (.ofText lead ++ .ofString "null")
  | .bool b => .text (.ofText lead ++ .ofString (if b then "true" else "false"))
  | .int n => .integer lead n
  | .float .nan => .text (.ofText lead ++ .ofString "NaN")
  | .float (.infinite negative) =>
    .text (.ofText lead ++ .ofString (if negative then "-Infinity" else "Infinity"))
  | .float x => .text (.ofText (lead ++ x.text))
  | .str s => .text (.ofText lead ++ quote s)
  | .arr _ => .text (.ofText lead ++ .ofString "[]")
  | .obj _ => .text (.ofText lead ++ .ofString "\x7b\x7d")

mutual

/-- The pieces of a value, its items being on the given level. `lead` is what precedes the value; it
makes one piece with a value that holds no others. -/
def pieces (layout : Layout) (level : Nat) (lead : Text) : Json → List Piece
  | .arr [] => [.nested level, scalarPiece lead (.arr [])]
  | .obj [] => [.nested level, scalarPiece lead (.obj [])]
  | .arr (item :: items) =>
    .text (.ofText lead) :: .nested level
      :: pieces layout (level + 1) ('[' :: layout.newline level) item
      ++ itemPieces layout level items
      ++ [.text (.ofText (layout.newline (level - 1))), .text (.ofString "]")]
  | .obj ((key, value) :: fields) =>
    .text (.ofText lead) :: .nested level :: .text (.ofText ('{' :: layout.newline level))
      :: .text (quote key) :: .text (.ofText layout.afterKey) :: pieces layout (level + 1) [] value
      ++ fieldPieces layout level fields
      ++ [.text (.ofText (layout.newline (level - 1))), .text (.ofString "\x7d")]
  | scalar => [scalarPiece lead scalar]

/-- The pieces of the items after the first one. -/
def itemPieces (layout : Layout) (level : Nat) : List Json → List Piece
  | [] => []
  | item :: items =>
    pieces layout (level + 1) (layout.separator level) item ++ itemPieces layout level items

/-- The pieces of the fields after the first one. -/
def fieldPieces (layout : Layout) (level : Nat) : List (CodeText × Json) → List Piece
  | [] => []
  | (key, value) :: fields =>
    .text (.ofText (layout.separator level)) :: .text (quote key)
      :: .text (.ofText layout.afterKey) :: pieces layout (level + 1) [] value
      ++ fieldPieces layout level fields

end

/-- The pieces of a whole document. -/
def printed (layout : Layout) (value : Json) : List Piece := pieces layout 1 [] value

/-- A whole document. -/
def print (layout : Layout) (value : Json) : CodeText := (printed layout value).flatMap Piece.code

end RouteAtlas.Json
