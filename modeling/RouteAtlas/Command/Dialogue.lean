import RouteAtlas.Command.Answer
import RouteAtlas.Discovery.Run
import RouteAtlas.Search.Outcome

/-!
# Dialogues

A command reads what is typed, prints on two channels, works on a file tree, and ends with an exit
code. What it cannot deal with escapes from it as a fault.

A dialogue is a state transformer that may stop before its time, with an exit code or with a fault
that escapes. What was printed until then has been printed, and what was done to the tree has been
done: both are part of the state (`Session`), which outlasts either way of stopping.

What a dialogue comes to when all of its input is known beforehand is its `reply`, together with the
tree it leaves.
-/

namespace RouteAtlas.Command

/-- What a command cannot deal with. -/
inductive Escape where
  | index (fault : IndexFault)
  | search (fault : SearchFault)
  | answer (fault : AnswerFault)
  | looping (fault : LinkLoop)
  /-- The index holds a half of a surrogate pair, which cannot be printed. -/
  | unprintable

/-- What is said of what a command cannot deal with. -/
def Escape.message : Escape → Text
  | .index fault => fault.message
  | .search fault => fault.message
  | .answer fault => fault.message
  | .looping fault => fault.message
  | .unprintable => "surrogates not allowed".toList

/-- How a command ends before its time. -/
inductive Halt where
  | exit (code : Nat)
  | escape (fault : Escape)

/-- Where a dialogue stands. The pieces of what was printed are held backwards. -/
structure Session where
  tree : FileTree
  input : Text
  output : List Text := []
  errors : List Text := []
  /-- Something was to be typed. -/
  asked : Bool := false

/-- A part of a dialogue. -/
abbrev Dialogue := ExceptT Halt (StateM Session)

namespace Dialogue

/-- Prints without ending the line. -/
def show_ (text : Text) : Dialogue Unit :=
  modify fun s => { s with output := text :: s.output }

/-- Prints a line. -/
def say (line : Text) : Dialogue Unit := show_ (line ++ ['\n'])

/-- Prints a line on the channel for errors. -/
def complain (line : Text) : Dialogue Unit :=
  modify fun s => { s with errors := (line ++ ['\n']) :: s.errors }

/-- Ends with an exit code. -/
def exit {α : Type} (code : Nat) : Dialogue α := throw (.exit code)

/-- Lets a fault escape. -/
def escape {α : Type} (fault : Escape) : Dialogue α := throw (.escape fault)

/-- The exit code of a failure. -/
def failure : Nat := 1

/-- The exit code of a wrong use. -/
def wrongUse : Nat := 2

/-- Says what went wrong and ends. -/
def fail {α : Type} (message : Text) (code : Nat := failure) : Dialogue α := do
  complain ("Error: ".toList ++ message)
  exit code

/-- The next line that is typed, without its end, if there is one. -/
def readLine? : Dialogue (Option Text) := do
  let s ← get
  set { s with input := (s.input.dropWhile (· != '\n')).drop 1, asked := true }
  pure (if s.input.isEmpty then none else some (s.input.takeWhile (· != '\n')))

/-- Works on the file tree. -/
def onTree {α : Type} (work : StateM FileTree α) : Dialogue α := do
  let s ← get
  let (value, tree) := work.run s.tree
  set { s with tree }
  pure value

/-- Prints what was reported and hands over the outcome. -/
def provided {α : Type} (p : Provision α) : Dialogue (Except IndexFault (Index α)) := do
  p.messages.forM say
  pure p.result

end Dialogue

/-- What came of a command. -/
structure Reply where
  /-- The exit code, or what escaped. -/
  outcome : Except Escape Nat
  output : Text
  errors : Text
  /-- Something was to be typed. -/
  asked : Bool

/-- Carries on a whole dialogue, in which something may be typed. -/
def Dialogue.reply (dialogue : Dialogue Unit) (tree : FileTree) (input : Text) :
    Reply × FileTree :=
  let (result, s) := (dialogue.run).run { tree, input }
  let outcome := match result with
    | .ok () => .ok 0
    | .error (.exit code) => .ok code
    | .error (.escape fault) => .error fault
  (⟨outcome, s.output.reverse.flatten, s.errors.reverse.flatten, s.asked⟩, s.tree)

end RouteAtlas.Command
