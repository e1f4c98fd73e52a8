import RouteAtlas.Text.Blank
import RouteAtlas.Text.CharClass

/-!
# Attributes

An attribute such as `HttpGet("{id}", Name = "x")` has a name and may have a route template: the
string that follows `template:` or `Template =`, or else the one its arguments start with. The name
loses its qualification and a conventional `Attribute` at its end.

A string stands between double quotes. Plain strings escape quotes and backslashes with a backslash;
strings with an at sign in front write a quote twice and leave backslashes alone.
-/

namespace RouteAtlas.Controllers

/-- An attribute of a class or a method. -/
structure Attribute where
  name : Text
  template : Option Text := none
  deriving DecidableEq, Repr

/-- One character in the place of each pair of neighbours `a` and `b`, from left to right. -/
def replacePair (a b c : Char) : Text → Text
  | x :: y :: rest =>
    if x = a ∧ y = b then c :: replacePair a b c rest else x :: replacePair a b c (y :: rest)
  | rest => rest

/-- What stands between the quotes of a string. -/
structure Quotation where
  verbatim : Bool
  written : Text
  deriving DecidableEq, Repr

/-- The text that a string denotes. -/
def Quotation.value (q : Quotation) : Text :=
  if q.verbatim then replacePair '"' '"' '"' q.written
  else replacePair '\\' '\\' '\\' (replacePair '\\' '"' '"' q.written)

/-- What stands before the closing quote of a string. Two quotes in a row belong to it if another
quote can close it; a backslash takes the character behind it along. -/
def closedBody? : Text → Option Text
  | [] => none
  | '"' :: '"' :: rest =>
    match closedBody? rest with
    | some body => some ('"' :: '"' :: body)
    | none => some []
  | '"' :: _ => some []
  | '\\' :: c :: rest =>
    if c = '\n' then none else (closedBody? rest).map fun body => '\\' :: c :: body
  | ['\\'] => none
  | c :: rest => (closedBody? rest).map (c :: ·)

/-- The string at the beginning of a text. -/
def quotation? : Text → Option Quotation
  | '@' :: '"' :: rest => (closedBody? rest).map (⟨true, ·⟩)
  | '"' :: rest => (closedBody? rest).map (⟨false, ·⟩)
  | _ => none

/-- The string behind a word and a sign, with blanks between them. -/
def quotationBehind? (word : Text) (sign : Char) (s : Text) : Option Quotation := do
  let rest ← word.isPrefixOf? s
  match Text.trimStart rest with
  | c :: rest => if c = sign then quotation? (Text.trimStart rest) else none
  | [] => none

/-- The first string that is given as the template by name. `inWord` tells whether a word goes on
here. -/
def namedQuotation? (inWord : Bool) : Text → Option Quotation
  | [] => none
  | c :: rest =>
    let here :=
      if inWord then none
      else (quotationBehind? "template".toList ':' (c :: rest)).or
        (quotationBehind? "Template".toList '=' (c :: rest))
    here.or (namedQuotation? (Text.isWordChar c) rest)

/-- The template among the arguments of an attribute. -/
def template? (arguments : Text) : Option Text :=
  ((namedQuotation? false arguments).or (quotation? (Text.trimStart arguments))).map
    Quotation.value

/-- The qualified name at the beginning of a text. -/
def qualifiedName (s : Text) : Text := s.takeWhile fun c => Text.isWordChar c || c == '.'

/-- The last part of a qualified name; the qualification has at least one character. -/
def unqualified? (name : Text) : Option Text :=
  let last := (name.reverse.takeWhile (· != '.')).reverse
  let qualification := name.length - last.length
  if last.isEmpty || qualification = 1 then none else some last

/-- The ending that attribute names may carry. -/
def attributeEnding : Text := "Attribute".toList

/-- The name without the conventional ending, unless nothing else would be left. -/
def shortAttributeName (name : Text) : Text :=
  if attributeEnding.length < name.length && attributeEnding.isSuffixOf name then
    name.take (name.length - attributeEnding.length)
  else name

/-- What stands between the parentheses behind a name; without parentheses there is nothing. -/
def argumentsOf? (s : Text) : Option Text :=
  match Text.trim s with
  | [] => some []
  | '(' :: inner => if inner.getLast? = some ')' then some inner.dropLast else none
  | _ => none

/-- The attribute that a text spells. -/
def Attribute.read? (s : Text) : Option Attribute := do
  let s := Text.trimStart s
  let qualified := qualifiedName s
  let name ← unqualified? qualified
  let arguments ← argumentsOf? (s.drop qualified.length)
  pure ⟨shortAttributeName name, template? arguments⟩

end RouteAtlas.Controllers
