import RouteAtlas.Text.CodeText

/-!
# Options

An option of a command has a long spelling and perhaps a short one. Some are switches, others take a
value; two of them show something and end the command.

What kind an option is of decides how it is read, what help says of its value, and what is done with
it. All of this hangs on `OptionKind`, so an option is described once, by its spellings, its kind
and a summary, and readers and manuals go by that description.
-/

namespace RouteAtlas.Command

/-- What an option is for. -/
inductive OptionKind where
  | switch
  | text
  /-- Takes a whole number, not less than another one. -/
  | atLeast (least : Int)
  /-- Takes the path of a directory. -/
  | directory
  | showVersion
  | showHelp
  deriving DecidableEq, Repr

namespace OptionKind

/-- What help says about the value that is taken, if one is. -/
def valueName? : OptionKind → Option Text
  | .text => some "TEXT".toList
  | .atLeast _ => some "INTEGER RANGE".toList
  | .directory => some "DIRECTORY".toList
  | .switch | .showVersion | .showHelp => none

/-- The option takes a value. -/
def takesValue (kind : OptionKind) : Bool := kind.valueName?.isSome

/-- The option shows something, and nothing else is done. -/
def showsOnly : OptionKind → Bool
  | .showVersion | .showHelp => true
  | _ => false

/-- Which values are admitted. -/
def range? : OptionKind → Option Text
  | .atLeast least => some ("x>=".toList ++ Text.ofInt least)
  | _ => none

end OptionKind

/-- An option of a command. -/
structure OptionSpec where
  short : Option Char := none
  long : Text
  kind : OptionKind
  summary : Text
  deriving DecidableEq, Repr

namespace OptionSpec

/-- How the long spelling is typed. -/
def longSpelling (o : OptionSpec) : Text := '-' :: '-' :: o.long

/-- How the option can be typed. -/
def spellings (o : OptionSpec) : List Text :=
  (o.short.map fun c => ['-', c]).toList ++ [o.longSpelling]

/-- How a message names the option. -/
def hint (o : OptionSpec) : Text := Text.joinWith " / ".toList (o.spellings.map Text.quoted)

/-- How help shows what is typed. -/
def usage (o : OptionSpec) : Text :=
  Text.joinWith ", ".toList o.spellings ++
    match o.kind.valueName? with
    | some name => ' ' :: name
    | none => []

/-- How help shows what the option does. -/
def explanation (o : OptionSpec) : Text :=
  o.summary ++
    match o.kind.range? with
    | some range => "  [".toList ++ range ++ [']']
    | none => []

end OptionSpec

/-- The option that shows help. -/
def helpOption : OptionSpec where
  short := some 'h'
  long := "help".toList
  kind := .showHelp
  summary := "Show this message and exit.".toList

end RouteAtlas.Command
