import RouteAtlas.Text.CharName
import RouteAtlas.Text.CodeText

/-!
# String constants of a script

A string constant is a body between quotes with letters in front that say how to read it. In a raw
one the body stands for itself. In any other a backslash announces an escape: a letter for a control
character, an octal or hexadecimal number, or a name between braces. A backslash before a line end
removes both. A backslash before any other character stands for itself.

Where a constant ends is found without reading its escapes, for a backslash protects the character
behind it in every style. What the body spells may hold halves of surrogate pairs, since a number
with four digits can name one. A constant of bytes is only checked for being one.
-/

namespace RouteAtlas.Script.Literal

/-- How the body of a string constant is read. -/
structure Style where
  raw : Bool
  bytes : Bool
  /-- There may be expressions between braces. -/
  template : Bool
  deriving DecidableEq, Repr

/-- The letters that may stand in front, in any case. -/
def styles : List (String × Style) :=
  [("", ⟨false, false, false⟩), ("u", ⟨false, false, false⟩), ("r", ⟨true, false, false⟩),
   ("b", ⟨false, true, false⟩), ("br", ⟨true, true, false⟩), ("rb", ⟨true, true, false⟩),
   ("f", ⟨false, false, true⟩), ("fr", ⟨true, false, true⟩), ("rf", ⟨true, false, true⟩)]

/-- The style that letters ask for. -/
def Style.ofLetters? (letters : Text) : Option Style :=
  (styles.find? fun (word, _) => word.toList == letters.map Char.toLower).map (·.2)

/-- The body of a string constant whose opening quotes have been read, up to the first closing
quotes. What a backslash protects does not close it; a line end does not stand in a short one. -/
def body? (quote : Char) (long : Bool) : Text → Option Text
  | [] => none
  | '\\' :: c :: rest => (body? quote long rest).map fun more => '\\' :: c :: more
  | c :: rest =>
    if c == quote && (!long || rest.take 2 == [quote, quote]) then some []
    else if c == '\n' && !long then none
    else (body? quote long rest).map (c :: ·)

/-- A string constant: its style, its body and how many characters it takes. -/
structure Found where
  style : Style
  body : Text
  width : Nat

/-- The string constant at the beginning of a text. -/
def ofText? (s : Text) : Option Found :=
  let letters := (s.takeWhile Text.isAsciiLetter)
  let opened := s.drop letters.length
  match Style.ofLetters? letters, opened with
  | some style, quote :: rest =>
    if quote == '"' || quote == '\x27' then
      if rest.take 2 == [quote, quote] then
        (body? quote true (rest.drop 2)).map fun body =>
          ⟨style, body, letters.length + 6 + body.length⟩
      else
        (body? quote false rest).map fun body => ⟨style, body, letters.length + 2 + body.length⟩
    else none
  | _, _ => none

/-- A string constant stands at the beginning of a text: one whose end may be missing. -/
def opens (s : Text) : Bool :=
  let letters := s.takeWhile Text.isAsciiLetter
  (Style.ofLetters? letters).isSome
    && (s.drop letters.length).head?.any fun c => c == '"' || c == '\x27'

/-- The code points that have a letter of their own behind a backslash. -/
def letterEscape? : Char → Option Nat
  | '\\' => some 92
  | '\x27' => some 39
  | '"' => some 34
  | 'a' => some 7
  | 'b' => some 8
  | 'f' => some 12
  | 'n' => some 10
  | 'r' => some 13
  | 't' => some 9
  | 'v' => some 11
  | _ => none

/-- An octal digit. -/
def isOctalDigit (c : Char) : Bool := '0' ≤ c && c ≤ '7'

/-- How many hexadecimal digits follow a letter. -/
def hexWidth? : Char → Option Nat
  | 'x' => some 2
  | 'u' => some 4
  | 'U' => some 8
  | _ => none

/-- The number that exactly `width` hexadecimal digits at the beginning spell. -/
def hexNumber? (width : Nat) (s : Text) : Option Nat :=
  let digits := (s.take width).filterMap Text.hexValue?
  if digits.length = width then some (Text.valueInBase 16 digits) else none

/-- What an escape stands for, and how many characters behind the backslash it takes. -/
def escape? : Text → Option (CodeText × Nat)
  | [] => some ([.char '\\'], 0)
  | '\n' :: _ => some ([], 1)
  | c :: rest =>
    match letterEscape? c, hexWidth? c with
    | some n, _ => some ([.char (Char.ofNat n)], 1)
    | none, some width => do
      let point ← CodePoint.ofCode? (← hexNumber? width rest)
      pure ([point], width + 1)
    | none, none =>
      if isOctalDigit c then
        let digits := (c :: rest).take 3 |>.takeWhile isOctalDigit
        let n := Text.valueInBase 8 (digits.map fun d => d.toNat - '0'.toNat)
        some ([.char (Char.ofNat n)], digits.length)
      else if c == 'N' then
        match rest with
        | '\x7b' :: more => do
          let name := more.takeWhile (· != '\x7d')
          if name.length = more.length then none
          else
            let named ← Text.namedChar? name
            pure ([.char named], name.length + 3)
        | _ => none
      else some ([.char '\\', .char c], 1)

/-- The text that a body spells; `none` if an escape in it is malformed. -/
def unescape? (s : Text) : Option CodeText :=
  match s with
  | [] => some []
  | '\\' :: rest => do
    let (points, width) ← escape? rest
    let more ← unescape? (rest.drop width)
    pure (points ++ more)
  | c :: rest => (unescape? rest).map (.char c :: ·)
termination_by s.length
decreasing_by all_goals (simp only [List.length_drop, List.length_cons]; omega)

/-- The text that a body spells in a style. -/
def textOf? (raw : Bool) (body : Text) : Option CodeText :=
  if raw then some (CodeText.ofText body) else unescape? body

/-- Every hexadecimal escape in a body of bytes is complete. -/
def hexComplete : Text → Bool
  | '\\' :: 'x' :: rest => (hexNumber? 2 rest).isSome && hexComplete rest
  | '\\' :: _ :: rest => hexComplete rest
  | _ :: rest => hexComplete rest
  | [] => true

/-- A body is one of bytes: ASCII, with complete escapes unless it is raw. -/
def isBytes (raw : Bool) (body : Text) : Bool :=
  body.all (fun c => c.toNat < 128) && (raw || hexComplete body)

end RouteAtlas.Script.Literal
