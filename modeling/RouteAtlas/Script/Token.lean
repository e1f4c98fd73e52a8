import RouteAtlas.Text.CodeText

/-!
# Tokens of a script

A script is a source file of a language whose blocks are marked by indentation. Its text is a
sequence of tokens: names, keywords and operators, constants, and three tokens without text of
their own, for the end of a logical line and for where a block begins and ends. Lines are counted
from 0 as long as a script is read.

A name is kept in two forms: the one in which names are compared, and as it is written. Keywords are
recognised by the latter, so a word that only becomes a keyword when it is brought into the first
form is a name. Words that are keywords in some places only are names here (`Reading.seesWord`).
-/

namespace RouteAtlas.Script

/-- A name, in the form in which names are compared. It has at least one character. -/
structure Name where
  text : Text
  text_ne : text ≠ []
  deriving Repr

instance : DecidableEq Name := fun a b =>
  decidable_of_iff (a.text = b.text) ⟨fun h => by cases a; cases b; cases h; rfl, congrArg Name.text⟩

/-- What a token is. -/
inductive Token where
  /-- A name, in the form in which names are compared, and as it is written. -/
  | name (id : Name) (written : Text)
  /-- A keyword, an operator, a bracket or another sign. -/
  | mark (sign : String)
  | number (imaginary : Bool)
  /-- A text constant. -/
  | text (value : CodeText)
  /-- A constant of bytes. -/
  | bytes
  /-- A text with expressions in it, of which this is the text. -/
  | template (embedded : List Text)
  | lineEnd
  | indent
  | dedent
  deriving DecidableEq, Repr

/-- A token and the line it begins on, counted from 0. -/
structure Placed where
  line : Nat
  token : Token
  deriving DecidableEq, Repr

/-- The words that are no names. -/
def keywords : List String :=
  ["False", "None", "True", "and", "as", "assert", "async", "await", "break", "class", "continue",
   "def", "del", "elif", "else", "except", "finally", "for", "from", "global", "if", "import", "in",
   "is", "lambda", "nonlocal", "not", "or", "pass", "raise", "return", "try", "while", "with",
   "yield"]

/-- The signs, longer ones first, so that the first that fits is the longest. -/
def signs : List String :=
  ["**=", "//=", "<<=", ">>=", "...",
   "!=", "%=", "&=", "**", "*=", "+=", "-=", "->", "//", "/=", ":=", "<<", "<=", "<>", "==", ">=",
   ">>", "@=", "^=", "|=",
   "%", "&", "(", ")", "*", "+", ",", "-", ".", "/", ":", ";", "<", "=", ">", "@", "[", "]", "^",
   "\x7b", "|", "\x7d", "~"]

/-- The token of a word. -/
def Token.ofWord (id : Name) (written : Text) : Token :=
  if keywords.contains (String.ofList written) then .mark (String.ofList written)
  else .name id written

end RouteAtlas.Script
