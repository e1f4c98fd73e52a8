import RouteAtlas.Text.Blank
import RouteAtlas.Text.CharClass

/-!
# Declarations

How a line of code is recognised as the declaration of a class or of a method, without a grammar of
the language: a class by the word `class` with a name behind it, a method by modifiers at the
beginning of the line and a name in front of a parenthesis.

A class may be declared anywhere in a line, a method only at its beginning. The name of a method is
the first word in front of a parenthesis with nothing but words, blanks and the signs of types
before it, and if the modifiers taken first leave none, fewer of them are tried.

Type arguments are skipped where they stand behind a name, up to the first angle bracket that
closes.
-/

namespace RouteAtlas.Controllers

/-- A name and what follows it. -/
def splitWord (s : Text) : Text × Text :=
  (s.takeWhile Text.isWordChar, s.dropWhile Text.isWordChar)

/-- What follows angle brackets with nothing of a class in between; the text itself if there are
none. -/
def skipAngles (forbidden : Char → Bool) (s : Text) : Text :=
  match s with
  | '<' :: rest =>
    match rest.dropWhile fun c => c != '>' && !forbidden c with
    | '>' :: after => after
    | _ => s
  | _ => s

/-! ## Classes -/

/-- What stands before the word `where`. `inWord` tells whether a word goes on here. -/
def beforeConstraints (inWord : Bool) : Text → Text
  | [] => []
  | c :: rest =>
    let isKeyword :=
      !inWord && match "where".toList.isPrefixOf? (c :: rest) with
        | some after => !((after.head?.map Text.isWordChar).getD false)
        | none => false
    if isKeyword then [] else c :: beforeConstraints (Text.isWordChar c) rest

/-- A base class by its simple name, without type arguments and qualification. -/
def simpleName (base : Text) : Text :=
  let plain := (Text.trim base).takeWhile (· != '<')
  Text.trim (plain.reverse.takeWhile (· != '.')).reverse

/-- The simple names of the base classes in a list of them. -/
def baseNames (bases : Text) : List Text :=
  (((beforeConstraints false bases).splitOn ',').map simpleName).filter (!·.isEmpty)

/-- The declaration of a class: its name and its bases. -/
structure ClassHead where
  name : Text
  bases : List Text
  deriving DecidableEq, Repr

/-- The bases of a class, from behind its name on: they stand behind a colon, up to a brace. -/
def basesBehind (s : Text) : List Text :=
  match Text.trimStart (skipAngles (· == '{') (Text.trimStart s)) with
  | ':' :: rest => baseNames (rest.takeWhile (· != '{'))
  | _ => []

/-- The declaration that starts with the word `class` at the beginning of a text. -/
def classHeadAt? (s : Text) : Option ClassHead := do
  let rest ← "class".toList.isPrefixOf? s
  if !((rest.head?.map Text.isBlank).getD false) then none
  else
    let (name, after) := splitWord (Text.trimStart rest)
    if name.isEmpty then none else some ⟨name, basesBehind after⟩

/-- The first declaration of a class in a text. `inWord` tells whether a word goes on here. -/
def classHeadFrom? (inWord : Bool) : Text → Option ClassHead
  | [] => none
  | c :: rest =>
    (if inWord then none else classHeadAt? (c :: rest)).or (classHeadFrom? (Text.isWordChar c) rest)

/-- The first declaration of a class in a line. -/
def ClassHead.find? (line : Text) : Option ClassHead := classHeadFrom? false line

/-! ## Methods -/

/-- The words that may stand in front of a method. -/
def modifierWords : List Text :=
  ["public", "private", "protected", "internal", "static", "virtual", "override", "async",
   "sealed", "new", "abstract", "extern", "unsafe", "partial"].map String.toList

/-- The declaration of a method: the words in front of it and its name. -/
structure MethodHead where
  modifiers : List Text
  name : Text
  deriving DecidableEq, Repr

/-- Modifiers at the beginning of a text with blanks behind each: each of them with what follows
it. `fuel` bounds their number. -/
def modifiersOf : (fuel : Nat) → Text → List (Text × Text)
  | 0, _ => []
  | fuel + 1, s =>
    let (word, rest) := splitWord s
    let after := Text.trimStart rest
    if modifierWords.contains word && after.length < rest.length then
      (word, after) :: modifiersOf fuel after
    else []

/-- A character that may stand between the modifiers of a method and its name. -/
def isTypeChar (c : Char) : Bool :=
  Text.isWordChar c || Text.isBlank c || "<>[],.?".toList.contains c

/-- A parenthesis opens here, behind blanks and type parameters. -/
def opensCall (s : Text) : Bool :=
  let rest := skipAngles (fun c => c == '(' || c == ')') (Text.trimStart s)
  (Text.trimStart rest).head? == some '('

/-- The first word in front of a parenthesis, with nothing but types before it. `inWord` tells
whether a word goes on here. -/
def calledName? (inWord : Bool) : Text → Option Text
  | [] => none
  | c :: rest =>
    let word := c :: rest.takeWhile Text.isWordChar
    if !inWord && Text.isWordChar c && opensCall (rest.dropWhile Text.isWordChar) then some word
    else if isTypeChar c then calledName? (Text.isWordChar c) rest
    else none

/-- The declaration with as many modifiers as possible; `before` holds the words already taken, the
last one first. -/
def methodHeadFrom? (before : List Text) : List (Text × Text) → Option MethodHead
  | [] => none
  | (word, after) :: others =>
    (methodHeadFrom? (word :: before) others).or
      ((calledName? false after).map fun name => ⟨(word :: before).reverse, name⟩)

/-- The declaration of a method at the beginning of a line. -/
def MethodHead.read? (line : Text) : Option MethodHead :=
  methodHeadFrom? [] (modifiersOf line.length (Text.trimStart line))

end RouteAtlas.Controllers
