import RouteAtlas.Command.Arguments

/-!
# Manuals

What help says of a command, and what is said when it is not used as it should be.

A manual holds all that help prints: how the command is called, paragraphs on what it does, its
options and the commands below it. The paragraphs are broken into lines already, since no terminal
is asked for its width. Options and commands stand in two columns, the left one as wide as its
longest row, and a heading without rows is left out.

A complaint about a wrong use shows how the command is used, except where an option that is known
and its value do not go together.
-/

namespace RouteAtlas.Command

/-- What there is to know about a command. -/
structure Manual where
  /-- How the command is called. -/
  path : Text
  /-- What follows it. -/
  operands : Text
  /-- What it does, in lines that fit a terminal. -/
  paragraphs : List (List Text)
  options : List OptionSpec
  /-- Commands below it, with what they do. -/
  commands : List (Text × Text) := []

namespace Manual

/-- A line below a heading. -/
def indented (line : Text) : Text := ' ' :: ' ' :: line

/-- Rows in two columns. -/
def columns (rows : List (Text × Text)) : List Text :=
  let width := (rows.map fun (left, _) => left.length).foldl max 0
  rows.map fun (left, right) => indented (Text.padRight width left ++ indented right)

/-- Rows below a heading, if there are any. -/
def headed (heading : String) (rows : List (Text × Text)) : List Text :=
  if rows.isEmpty then [] else [] :: heading.toList :: columns rows

/-- The line that says how the command is used. -/
def usage (m : Manual) : Text := "Usage: ".toList ++ m.path ++ ' ' :: m.operands

/-- Everything that help says. -/
def help (m : Manual) : List Text :=
  m.usage :: m.paragraphs.flatMap (fun lines => [] :: lines.map indented)
    ++ headed "Options:" (m.options.map fun o => (o.usage, o.explanation))
    ++ headed "Commands:" m.commands

/-- What is said when the command is not used as it should be. -/
def complaint (m : Manual) (fault : UsageFault) : List Text :=
  let message := "Error: ".toList ++ fault.message
  if fault.showsUsage then
    [m.usage, "Try \x27".toList ++ m.path ++ " --help\x27 for help.".toList, [], message]
  else [message]

end Manual

end RouteAtlas.Command
