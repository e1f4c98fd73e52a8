import RouteAtlas.Command.Option
import RouteAtlas.Command.Suggestion

/-!
# Reading arguments

Arguments that begin with a dash are options, long ones behind two dashes and short ones, which may
be lumped together, behind one. A value follows as the next argument, or directly: behind an equals
sign for a long option, behind the letter for a short one. Two dashes alone end the options.

A grammar says which options there are. A strict one refuses an option it does not know and names
those that resemble it. A lenient one keeps it among the other arguments, with what stands behind
it; that is how the program reads its own options in front of a command whose options it does not
know.

Each argument is read by itself into a `Reading`. If that leaves an option without its value, the
option is owed the next argument, whatever that looks like, and at the end of the arguments nothing
may be owed any more.
-/

namespace RouteAtlas.Command

/-- Which options there are, and where they may stand. -/
structure Grammar where
  options : List OptionSpec
  /-- Options may follow other arguments. -/
  interspersed : Bool := true
  /-- Unknown options are kept as other arguments. -/
  lenient : Bool := false

/-- An option that was given, with its value if it takes one. -/
structure Given where
  option : OptionSpec
  value : Text := []
  deriving DecidableEq, Repr

/-- Arguments, read: the options in order, and what else was given. -/
structure Arguments where
  given : List Given := []
  rest : List Text := []
  deriving DecidableEq, Repr

/-- Why arguments make no sense. -/
inductive UsageFault where
  | noSuchOption (name : Text) (similar : List Text)
  | needsValue (name : Text)
  | takesNoValue (name : Text)
  | invalidValue (option : OptionSpec) (problem : Text)
  | unexpected (arguments : List Text)
  | missingCommand
  deriving DecidableEq, Repr

namespace UsageFault

/-- Spellings that may have been meant. -/
def suggestionText (similar : List Text) : Text :=
  match similar with
  | [] => []
  | [one] => " Did you mean ".toList ++ Text.quoted one ++ ['?']
  | several =>
    " (Possible options: ".toList
      ++ Text.joinWith ", ".toList ((several.mergeSort Text.le).map Text.quoted) ++ [')']

/-- What is said of arguments that make no sense. -/
def message : UsageFault → Text
  | .noSuchOption name similar =>
    "No such option ".toList ++ Text.quoted name ++ ['.'] ++ suggestionText similar
  | .needsValue name => "Option ".toList ++ Text.quoted name ++ " requires an argument.".toList
  | .takesNoValue name => "Option ".toList ++ Text.quoted name ++ " does not take a value.".toList
  | .invalidValue option problem =>
    "Invalid value for ".toList ++ option.hint ++ ": ".toList ++ problem
  | .unexpected arguments =>
    (if arguments.length = 1 then "Got unexpected extra argument (" else
      "Got unexpected extra arguments (").toList
      ++ Text.joinWith [' '] arguments ++ [')']
  | .missingCommand => "Missing command.".toList

/-- The usage of the command is shown above the message. -/
def showsUsage : UsageFault → Bool
  | .needsValue _ | .takesNoValue _ => false
  | _ => true

end UsageFault

/-- What one argument says: options, other arguments, and perhaps an option that takes the next
argument as its value, with its spelling. -/
structure Reading where
  given : List Given := []
  kept : List Text := []
  owed : Option (OptionSpec × Text) := none

namespace Grammar

/-- The option with a letter. -/
def short? (g : Grammar) (c : Char) : Option OptionSpec := g.options.find? (·.short == some c)

/-- The option with a long spelling. -/
def long? (g : Grammar) (name : Text) : Option OptionSpec :=
  g.options.find? (·.longSpelling == name)

/-- Letters behind one dash; `unknown` holds those that were not known, backwards. -/
def readLetters (g : Grammar) : (unknown letters : Text) → Except UsageFault Reading
  | unknown, [] =>
    .ok { kept := if unknown.isEmpty then [] else ['-' :: unknown.reverse] }
  | unknown, c :: rest =>
    match g.short? c with
    | none =>
      if g.lenient then g.readLetters (c :: unknown) rest
      else .error (.noSuchOption ['-', c] [])
    | some option =>
      if option.kind.takesValue then
        let kept := if unknown.isEmpty then [] else ['-' :: unknown.reverse]
        if rest.isEmpty then .ok { kept, owed := some (option, ['-', c]) }
        else .ok { given := [⟨option, rest⟩], kept }
      else do
        let later ← g.readLetters unknown rest
        pure { later with given := { option } :: later.given }

/-- An argument behind two dashes. -/
def readLong (g : Grammar) (argument : Text) : Except UsageFault Reading :=
  let (name, attached) := match Text.breakOn ['='] argument with
    | some (name, value) => (name, some value)
    | none => (argument, none)
  match g.long? name with
  | none =>
    if g.lenient then .ok { kept := [argument] }
    else .error (.noSuchOption name (closeSpellings name (g.options.map (·.longSpelling))))
  | some option =>
    match option.kind.takesValue, attached with
    | true, some value => .ok { given := [⟨option, value⟩] }
    | true, none => .ok { owed := some (option, name) }
    | false, some _ => .error (.takesNoValue name)
    | false, none => .ok { given := [{ option }] }

/-- Reads arguments one after the other. An option may still be owed its value; it comes with its
spelling. -/
def readFrom (g : Grammar) : (owed : Option (OptionSpec × Text)) → List Text →
    Except UsageFault Arguments
  | none, [] => .ok {}
  | some (_, name), [] => .error (.needsValue name)
  | some (option, _), value :: rest => do
    let later ← g.readFrom none rest
    pure { later with given := ⟨option, value⟩ :: later.given }
  | none, argument :: rest =>
    match argument with
    | ['-', '-'] => .ok { rest }
    | '-' :: second :: letters => do
      let reading ← if second = '-' then g.readLong argument else g.readLetters [] (second :: letters)
      let later ← g.readFrom reading.owed rest
      pure ⟨reading.given ++ later.given, reading.kept ++ later.rest⟩
    | _ =>
      if g.interspersed then do
        let later ← g.readFrom none rest
        pure { later with rest := argument :: later.rest }
      else .ok { rest := argument :: rest }

/-- Reads all arguments. -/
def read (g : Grammar) (arguments : List Text) : Except UsageFault Arguments :=
  g.readFrom none arguments

end Grammar

namespace Arguments

/-- The option that only shows something, if one is given. -/
def shown? (a : Arguments) : Option OptionKind :=
  (a.given.map (·.option.kind)).find? OptionKind.showsOnly

/-- What was given for an option; what was given last counts. -/
def last? (a : Arguments) (option : OptionSpec) : Option Text :=
  (a.given.reverse.find? (·.option == option)).map (·.value)

/-- A switch is on. -/
def isOn (a : Arguments) (option : OptionSpec) : Bool := a.given.any (·.option == option)

end Arguments

end RouteAtlas.Command
