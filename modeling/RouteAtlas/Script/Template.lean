import RouteAtlas.Script.Literal

/-!
# Expressions inside text constants

A template is a text constant with expressions between braces. Outside of them a doubled brace
stands for one brace. Behind an expression there may be an equals sign, a conversion and a format;
a format may hold expressions again, and their formats may hold none. An expression reaches as far
as its brackets and quotes are closed; it holds no backslash and no comment.

What the expressions mean is not read here. Their texts are collected, so that each can be read as
an expression of its own.
-/

namespace RouteAtlas.Script.Template

/-- A literal part: its body, what follows, and whether what follows is literal again because the
part ended with a doubled brace. -/
structure Part where
  body : Text
  rest : Text
  continues : Bool

/-- The part with more characters in front. -/
def Part.behind (front : Text) (p : Part) : Part := { p with body := front ++ p.body }

/-- What a brace at the end of a literal part does. -/
def atBrace (depth : Nat) (brace : Char) (rest : Text) : Option Part :=
  if depth = 0 && rest.head? = some brace then some ⟨[brace], rest.drop 1, true⟩
  else if depth = 0 && brace == '\x7d' then none
  else some ⟨[], brace :: rest, false⟩

/-- The literal part at the beginning. -/
def literal (raw : Bool) (depth : Nat) (s : Text) : Option Part :=
  match s with
  | [] => some ⟨[], [], false⟩
  | '\x7b' :: rest => atBrace depth '\x7b' rest
  | '\x7d' :: rest => atBrace depth '\x7d' rest
  | '\\' :: rest =>
    let width :=
      if raw then 0
      else
        match rest with
        | 'N' :: more => more.length - (more.dropWhile (· != '\x7d')).length + 2
        | '\x7b' :: _ | '\x7d' :: _ => 0
        | _ => 1
    (literal raw depth (rest.drop width)).map (·.behind ('\\' :: rest.take width))
  | c :: rest => (literal raw depth rest).map (·.behind [c])
termination_by s.length
decreasing_by all_goals (simp only [List.length_drop, List.length_cons]; omega)

/-- The bracket that an opening bracket asks for. -/
def closing? : Char → Option Char
  | '(' => some ')'
  | '[' => some ']'
  | '\x7b' => some '\x7d'
  | _ => none

/-- How deep brackets may be nested. -/
def bracketLimit : Nat := 200

/-- Where an expression is being read: in a string, whose quote is given together with whether it is
a long one, or outside, between brackets that wait for the given ones. -/
structure Inside where
  quote : Option (Char × Bool) := none
  awaited : List Char := []

/-- One step over an expression: how many further characters it takes and where it leads; `none` if
the expression is malformed, `some none` if it ends before the character. -/
def Inside.step (i : Inside) (c : Char) (rest : Text) : Option (Option (Nat × Inside)) :=
  if c == '\\' then none
  else
    let tripled := rest.take 2 == [c, c]
    match i.quote with
    | some (quote, long) =>
      if c != quote || (long && !tripled) then some (some (0, i))
      else some (some (if long then 2 else 0, { i with quote := none }))
    | none =>
      if c == '"' || c == '\x27' then
        some (some (if tripled then 2 else 0, { i with quote := some (c, tripled) }))
      else if c == '#' then none
      else
        match closing? c with
        | some close =>
          if bracketLimit ≤ i.awaited.length then none
          else some (some (0, { i with awaited := close :: i.awaited }))
        | none =>
          if i.awaited.isEmpty && "!:=<>\x7d".toList.contains c then
            if "!=<>".toList.contains c && rest.head? = some '=' then some (some (1, i))
            else if c == '<' || c == '>' then some (some (0, i))
            else some none
          else if ")]\x7d".toList.contains c then
            match i.awaited with
            | [] => none
            | close :: outer =>
              if c == close then some (some (0, { i with awaited := outer })) else none
          else some (some (0, i))

/-- The expression at the beginning and what follows it. -/
def expression (i : Inside) (s : Text) : Option (Text × Text) :=
  match s with
  | [] => none
  | c :: rest =>
    match i.step c rest with
    | none => none
    | some none => some ([], c :: rest)
    | some (some (width, next)) =>
      (expression next (rest.drop width)).map fun (more, after) =>
        (c :: rest.take width ++ more, after)
termination_by s.length
decreasing_by simp only [List.length_drop, List.length_cons]; omega

/-- A character that a script skips between tokens. -/
def isFiller (c : Char) : Bool := c == ' ' || c == '\t' || c == '\n' || c == '\x0c'

/-- ASCII white space. -/
def isAsciiBlank (c : Char) : Bool := isFiller c || c == '\r' || c == '\x0b'

/-- What follows an equals sign behind an expression, if there is one. -/
def afterEquals : Text → Text
  | '=' :: rest => rest.dropWhile isAsciiBlank
  | s => s

/-- What follows a conversion, if there is one. -/
def afterConversion : Text → Option Text
  | '!' :: letter :: rest =>
    if "sra".toList.contains letter
        && (rest.head? = some ':' || rest.head? = some '\x7d') then some rest
    else none
  | s => some s

/-- How deep formats may be nested. -/
def depthLimit : Nat := 2

mutual

/-- The texts of the expressions in a template, or in a format that ends before a closing brace,
and what follows. -/
def expressionsFrom (raw : Bool) : Nat → Nat → Text → Option (List Text × Text)
  | 0, _, _ => none
  | fuel + 1, depth, s => do
    let part ← literal raw depth s
    let _ ← Literal.textOf? raw part.body
    if part.continues then expressionsFrom raw fuel depth part.rest
    else
      match part.rest with
      | '\x7b' :: inner =>
        let (found, after) ← fieldFrom raw fuel depth inner
        let (more, rest) ← expressionsFrom raw fuel depth after
        pure (found ++ more, rest)
      | rest => pure ([], rest)
termination_by structural fuel => fuel

/-- The texts of the expressions in a field behind its opening brace, and what follows it. -/
def fieldFrom (raw : Bool) : Nat → Nat → Text → Option (List Text × Text)
  | 0, _, _ => none
  | fuel + 1, depth, s => do
    if depthLimit ≤ depth then none
    else
      let (text, after) ← expression {} s
      if text.all isFiller then none
      else
        let after ← afterConversion (afterEquals after)
        match after with
        | '\x7d' :: rest => pure ([text], rest)
        | ':' :: format =>
          match ← expressionsFrom raw fuel (depth + 1) format with
          | (found, '\x7d' :: rest) => pure (text :: found, rest)
          | _ => none
        | _ => none
termination_by structural fuel => fuel

end

/-- The texts of the expressions in the body of a template. -/
def expressions? (raw : Bool) (body : Text) : Option (List Text) :=
  match expressionsFrom raw (2 * body.length + 1) 0 body with
  | some (found, []) => some found
  | _ => none

end RouteAtlas.Script.Template
