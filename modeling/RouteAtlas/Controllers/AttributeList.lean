import RouteAtlas.Controllers.Attribute

/-!
# Lists of attributes

Attributes stand in square brackets at the beginning of a line, several of them between commas.
Brackets, commas and parentheses in strings do not count. A list that names a target, such as
`[assembly: X]`, is passed over.

Two scans run over a list, one for the bracket that closes it and one for its commas. Both take a
backslash in a string together with the character behind it, in strings of every kind. A list that
is not closed on its line is no list, and all of it is left for what follows.
-/

namespace RouteAtlas.Controllers

/-- The number of open brackets after a character that closes none of the outermost. -/
def bracketDepth (depth : Nat) (c : Char) : Nat :=
  if c = '[' then depth + 1 else if c = ']' then depth - 1 else depth

/-- What stands before the bracket that closes a list, and what follows that bracket. `depth` other
brackets are open, and a string if `quoted` holds. -/
def closeBracket? : (depth : Nat) → (quoted : Bool) → Text → Option (Text × Text)
  | _, _, [] => none
  | depth, true, '\\' :: c :: rest =>
    (closeBracket? depth true rest).map fun (inner, after) => ('\\' :: c :: inner, after)
  | depth, true, c :: rest =>
    (closeBracket? depth (c != '"') rest).map fun (inner, after) => (c :: inner, after)
  | 0, false, ']' :: rest => some ([], rest)
  | depth, false, c :: rest =>
    (closeBracket? (bracketDepth depth c) (c == '"') rest).map fun (inner, after) =>
      (c :: inner, after)

@[simp] theorem closeBracket?_close (rest : Text) :
    closeBracket? 0 false (']' :: rest) = some ([], rest) := by
  rw [closeBracket?]

theorem closeBracket?_shorter {depth : Nat} {quoted : Bool} {s inner after : Text}
    (h : closeBracket? depth quoted s = some (inner, after)) : after.length < s.length := by
  fun_induction closeBracket? depth quoted s generalizing inner after with
  | case1 => cases h
  | case2 depth c rest ih =>
    obtain ⟨⟨i, a⟩, ha, heq⟩ := Option.map_eq_some_iff.1 h
    cases heq
    have := ih ha
    simp only [List.length_cons]
    omega
  | case3 depth c rest _ ih =>
    obtain ⟨⟨i, a⟩, ha, heq⟩ := Option.map_eq_some_iff.1 h
    cases heq
    have := ih ha
    simp only [List.length_cons]
    omega
  | case4 rest =>
    cases h
    simp
  | case5 depth c rest _ ih =>
    obtain ⟨⟨i, a⟩, ha, heq⟩ := Option.map_eq_some_iff.1 h
    cases heq
    have := ih ha
    simp only [List.length_cons]
    omega

/-- Puts a character in front of the first part. -/
def onFirst (c : Char) : List Text → List Text
  | [] => [[c]]
  | first :: others => (c :: first) :: others

/-- The parts of a text between commas outside of parentheses and strings. `depth` counts the
parentheses that are open, and `quoted` holds inside a string. -/
def commaParts : (depth : Int) → (quoted : Bool) → Text → List Text
  | _, _, [] => [[]]
  | depth, true, '\\' :: c :: rest => onFirst '\\' (onFirst c (commaParts depth true rest))
  | depth, true, c :: rest => onFirst c (commaParts depth (c != '"') rest)
  | depth, false, c :: rest =>
    if c = ',' ∧ depth = 0 then [] :: commaParts depth false rest
    else
      let next := if c = '(' then depth + 1 else if c = ')' then depth - 1 else depth
      onFirst c (commaParts next (c == '"') rest)

@[simp] theorem commaParts_nil (depth : Int) (quoted : Bool) :
    commaParts depth quoted [] = [[]] := by
  rw [commaParts]

/-- The inside of a list starts with a target: a word and a single colon. -/
def namesTarget (inner : Text) : Bool :=
  let s := Text.trimStart inner
  let word := s.takeWhile Text.isWordChar
  if word.isEmpty then false
  else match Text.trimStart (s.drop word.length) with
    | ':' :: ':' :: _ => false
    | ':' :: _ => true
    | _ => false

/-- The attributes inside a list. -/
def attributesIn (inner : Text) : List Attribute :=
  if namesTarget inner then []
  else ((commaParts 0 false inner).filter fun part => !(Text.trim part).isEmpty).filterMap
    Attribute.read?

theorem trimStart_length_le (s : Text) : (Text.trimStart s).length ≤ s.length :=
  (List.dropWhile_suffix _).length_le

/-- The attributes of the lists at the beginning of a text that starts with no blank, and what
follows these lists. -/
def peelLists (s : Text) : List Attribute × Text :=
  match s with
  | '[' :: inside =>
    match _h : closeBracket? 0 false inside with
    | none => ([], '[' :: inside)
    | some (inner, after) =>
      let (attributes, rest) := peelLists (Text.trimStart after)
      (attributesIn inner ++ attributes, rest)
  | s => ([], s)
termination_by s.length
decreasing_by
  have := closeBracket?_shorter _h
  have := trimStart_length_le after
  simp only [List.length_cons]
  omega

/-- The attributes of the lists at the beginning of a line, and the rest of the line. -/
def splitAttributes (line : Text) : List Attribute × Text := peelLists (Text.trimStart line)

end RouteAtlas.Controllers
