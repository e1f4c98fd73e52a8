import RouteAtlas.Settings.Basic
import RouteAtlas.Text.Blank
import RouteAtlas.Text.CodeText

/-!
# Settings from the environment

Every setting may come from an environment variable, whose name is that of the field behind
`APIMAP_`, in any case; or from a file of assignments, which the environment overrides; and both are
overridden by what a caller gives (`Settings.ofSources`).

The file has one assignment a line, the value bare, in single or in double quotes, with comments
behind a number sign. `export` may stand in front. A line that is no assignment is passed over. A
name without an equals sign stands there without a value. In values, `${NAME}` is replaced by the
value of another variable, which an earlier line may have given, and `${NAME:-text}` by the text if
there is no such variable.
-/

/-! ## Files of assignments -/

namespace RouteAtlas.Assignments

/-- A blank that does not end a line. -/
def isSpace (c : Char) : Bool := Text.isBlank c && c != '\n' && c != '\r'

/-- A character inside a line. -/
def isInLine (c : Char) : Bool := c != '\n' && c != '\r'

/-- A name and its value, if it has one. -/
structure Binding where
  name : Text
  value : Option Text
  deriving DecidableEq, Repr

/-- Behind the end of the line. -/
def skipLineEnd : Text → Text
  | '\r' :: '\n' :: rest => rest
  | '\r' :: rest => rest
  | '\n' :: rest => rest
  | rest => rest

/-- Behind the word `export`, if blanks follow it. -/
def skipExport (s : Text) : Text :=
  match "export".toList.isPrefixOf? s with
  | some rest => if (rest.head?.map isSpace).getD false then rest.dropWhile isSpace else s
  | none => s

/-- What stands before the next quote of the given kind that has no backslash in front, still
escaped, and what follows that quote. If there is none, the last quote counts, whatever stands in
front of it. -/
def quotedPart? (mark : Char) : Text → Option (Text × Text)
  | [] => none
  | '\\' :: c :: rest =>
    if c = mark then
      match quotedPart? mark rest with
      | some (value, after) => some ('\\' :: c :: value, after)
      | none => some (['\\'], rest)
    else (quotedPart? mark (c :: rest)).map fun (value, after) => ('\\' :: value, after)
  | c :: rest =>
    if c = mark then some ([], rest)
    else (quotedPart? mark rest).map fun (value, after) => (c :: value, after)

/-- The characters that escapes stand for in double quotes. -/
def doubleEscape? : Char → Option Char
  | '\\' => some '\\'
  | '\'' => some '\''
  | '"' => some '"'
  | 'a' => some '\x07'
  | 'b' => some '\x08'
  | 'f' => some '\x0c'
  | 'n' => some '\n'
  | 'r' => some '\r'
  | 't' => some '\t'
  | 'v' => some '\x0b'
  | _ => none

/-- The characters that escapes stand for in single quotes. -/
def singleEscape? : Char → Option Char
  | '\\' => some '\\'
  | '\'' => some '\''
  | _ => none

/-- The text with its escapes replaced. -/
def unescape (meaning? : Char → Option Char) : Text → Text
  | '\\' :: c :: rest =>
    match meaning? c with
    | some plain => plain :: unescape meaning? rest
    | none => '\\' :: unescape meaning? (c :: rest)
  | c :: rest => c :: unescape meaning? rest
  | [] => []

/-- A bare value without the comments that follow blanks: from the first blank on behind which only
blanks stand before a number sign. -/
def withoutComment : Text → Text
  | [] => []
  | c :: rest =>
    if Text.isBlank c && (rest.dropWhile Text.isBlank).head? == some '#' then []
    else c :: withoutComment rest

/-- The value at the beginning of a text, and what follows it. -/
def readValue? : Text → Option (Text × Text)
  | '\'' :: rest =>
    (quotedPart? '\'' rest).map fun (value, after) => (unescape singleEscape? value, after)
  | '"' :: rest =>
    (quotedPart? '"' rest).map fun (value, after) => (unescape doubleEscape? value, after)
  | s =>
    let line := s.takeWhile isInLine
    some (Text.trimEnd (withoutComment line), s.drop line.length)

/-- A name may be bare or in single quotes. -/
def readName? : Text → Option (Text × Text)
  | '\'' :: rest =>
    let name := rest.takeWhile (· != '\'')
    if name.isEmpty then none
    else match rest.drop name.length with
      | '\'' :: after => some (name, after)
      | _ => none
  | s =>
    let name := s.takeWhile fun c => c != '=' && c != '#' && !Text.isBlank c
    if name.isEmpty then none else some (name, s.drop name.length)

/-- The end of a line with blanks and a comment in front of it; what follows. -/
def readLineEnd? (s : Text) : Option Text :=
  let spaced := s.dropWhile isSpace
  let plain := if spaced.head? == some '#' then spaced.dropWhile isInLine else s
  let rest := plain.dropWhile isSpace
  if (rest.head?.map isInLine).getD false then none else some (skipLineEnd rest)

/-- The binding at the beginning of a text that does not begin with blanks, if there is one, and
what follows its line. Where a line cannot be understood, the rest of it is passed over. -/
def readBinding (s : Text) : Option Binding × Text :=
  let giveUp := fun (s : Text) => ((none : Option Binding), skipLineEnd (s.dropWhile isInLine))
  let finish := fun (binding : Option Binding) (s : Text) =>
    match readLineEnd? s with
    | some rest => (binding, rest)
    | none =>
      let spaced := s.dropWhile isSpace
      giveUp (if spaced.head? == some '#' then spaced.dropWhile isInLine else s)
  let s := skipExport s
  if s.head? == some '#' then finish none s
  else match readName? s with
    | none => giveUp s
    | some (name, rest) =>
      match rest.dropWhile isSpace with
      | '=' :: value =>
        let value := value.dropWhile isSpace
        match readValue? value with
        | none => giveUp value
        | some (value, rest) => finish (some ⟨name, some value⟩) rest
      | rest => finish (some ⟨name, none⟩) rest

/-- The bindings of a text, in order; `fuel` bounds the number of lines. -/
def readFrom : Nat → Text → List Binding
  | 0, _ => []
  | fuel + 1, s =>
    match s.dropWhile Text.isBlank with
    | [] => []
    | s =>
      let (binding, rest) := readBinding s
      binding.toList ++ readFrom fuel rest

/-- The bindings of a text, in order. -/
def read (s : Text) : List Binding := readFrom (s.length + 1) s

/-! ## Replacing variables -/

/-- A reference to a variable at the beginning of a text: its name, the text that stands in for it,
and what follows. -/
def reference? (s : Text) : Option (Text × Text × Text) :=
  match "$\x7b".toList.isPrefixOf? s with
  | none => none
  | some rest =>
    let name := rest.takeWhile fun c => c != '\x7d' && c != ':'
    match rest.drop name.length with
    | '\x7d' :: after => some (name, [], after)
    | ':' :: '-' :: rest =>
      let default := rest.takeWhile (· != '\x7d')
      match rest.drop default.length with
      | '\x7d' :: after => some (name, default, after)
      | _ => none
    | _ => none

/-- The value of a variable among others, the latest first: none if it is not there, and nothing if
it is there without a value. -/
def valueOf? (name : Text) (known : List Binding) : Option Text :=
  (known.find? (·.name == name)).map fun b => b.value.getD []

/-- The text with its references replaced. -/
def substitute (known : List Binding) : Nat → Text → Text
  | 0, s => s
  | _ + 1, [] => []
  | fuel + 1, c :: rest =>
    match reference? (c :: rest) with
    | some (name, default, after) =>
      (valueOf? name known).getD default ++ substitute known fuel after
    | none => c :: substitute known fuel rest

/-- Bindings with their references replaced by what is known before them, the latest first. -/
def resolveFrom (known : List Binding) : List Binding → List Binding
  | [] => []
  | b :: rest =>
    let b := { b with value := b.value.map fun v => substitute known (v.length + 1) v }
    b :: resolveFrom (b :: known) rest

/-- Bindings with their references replaced, where `outer` holds the variables known outside of the
file, the latest first. -/
def resolve (outer bindings : List Binding) : List Binding := resolveFrom outer bindings

end RouteAtlas.Assignments

/-! ## The sources of a setting -/

namespace RouteAtlas.Settings

/-- What the names of variables start with, in lower case. -/
def variableStart : Text := "apimap_".toList

/-- The fields that variables can give. -/
def fieldNames : List String :=
  ["index_dir_name", "index_file_name", "adaptive_cutoff_ratio", "adaptive_max_results",
   "display_path_width", "log_level", "log_file"]

/-- The value that variables give a field. Of several whose names differ in case, the one that came
up last counts, and of several with the same name, the last one. -/
def valueFrom? (bindings : List Assignments.Binding) (field : String) : Option Text :=
  let wanted := variableStart ++ field.toList
  let names := (bindings.map (·.name)).eraseDups.filter fun name => Text.lower name == wanted
  names.getLast?.bind fun name => (bindings.reverse.find? (·.name == name)).bind (·.value)

/-- The field from the first source that has it. -/
def fieldFrom? (given : List (CodeText × Json)) (environment file : List Assignments.Binding)
    (field : String) : Option (CodeText × Json) :=
  let key := CodeText.ofString field
  match Json.lookupField key given with
  | some value => some (key, value)
  | none =>
    ((valueFrom? environment field).or (valueFrom? file field)).map fun value => (key, .text value)

/-- The settings from what a caller gives, the variables of the environment, and the text of a file
of assignments. -/
def ofSources (given : List (CodeText × Json)) (environment : List Assignments.Binding)
    (file : Text) : Checked Settings :=
  let bindings := Assignments.read (Text.unifyNewlines file)
  let resolved := Assignments.resolve environment.reverse bindings
  ofFields (fieldNames.filterMap (fieldFrom? given environment resolved))

end RouteAtlas.Settings
