import RouteAtlas.Controllers.AttributeList
import RouteAtlas.Controllers.Declaration
import RouteAtlas.Controllers.Line
import RouteAtlas.Path

/-!
# Scanning a source file for classes

The lines of a file are looked at one after the other. Attributes wait for the declaration that
follows them; a class waits for the brace that opens its body; and the classes whose bodies are open
lie on a stack with the depth of these bodies, so that a method belongs to the innermost class whose
body is open at exactly the depth of the line.

A line is used twice. What it declares is found in the text that has only lost its comments, and
then its braces are counted in the text that has lost its strings as well. So a declaration belongs
to the depth at the beginning of its line, and a body that opens and closes on the line of its class
is gone before the next one.

A line that declares a class is not looked at for methods. Behind code of any kind, attributes wait
no longer.
-/

namespace RouteAtlas.Controllers

/-- A method of a class. Its line is that of its first attribute, if it has any. -/
structure Action where
  name : Text
  line : Nat
  isPublic : Bool
  attributes : List Attribute
  deriving DecidableEq, Repr

/-- A class. Its line is that of its first attribute, if it has any. -/
structure ClassDecl where
  name : Text
  file : Path
  line : Nat
  bases : List Text := []
  attributes : List Attribute := []
  methods : List Action := []
  deriving DecidableEq, Repr

/-- The class with one more method. -/
def ClassDecl.withMethod (c : ClassDecl) (method : Action) : ClassDecl :=
  { c with methods := c.methods ++ [method] }

/-- A class whose body is open: its place among all classes, and the depth of its body. -/
structure OpenBody where
  place : Nat
  depth : Nat
  deriving DecidableEq, Repr

/-- Attributes that wait for a declaration, and the line of the first of them. -/
structure Waiting where
  attributes : List Attribute
  line : Nat
  deriving DecidableEq, Repr

/-- What is known after some lines. -/
structure ScanState where
  /-- The classes found, in the order of their declarations. -/
  classes : List ClassDecl := []
  /-- The open bodies, the innermost first. -/
  bodies : List OpenBody := []
  /-- The attributes that wait. -/
  waiting : Option Waiting := none
  /-- The place of the class that waits for its body. -/
  awaited : Option Nat := none
  /-- The number of open braces. -/
  depth : Nat := 0
  /-- A comment is open, in the text with strings. -/
  inComment : Bool := false
  /-- A comment is open, in the text without strings. -/
  inCodeComment : Bool := false
  deriving DecidableEq, Repr

namespace ScanState

/-- The state after a brace; other characters change nothing. -/
def brace (s : ScanState) (c : Char) : ScanState :=
  if c = '{' then
    { s with
      depth := s.depth + 1
      bodies := s.awaited.toList.map (⟨·, s.depth + 1⟩) ++ s.bodies
      awaited := none }
  else if c = '}' then
    { s with
      depth := s.depth - 1
      bodies := match s.bodies with
        | body :: outer => if body.depth = s.depth then outer else body :: outer
        | [] => [] }
  else s

/-- The state after attributes on a line. -/
def addAttributes (s : ScanState) (line : Nat) (attributes : List Attribute) : ScanState :=
  if attributes.isEmpty then s
  else match s.waiting with
    | none => { s with waiting := some ⟨attributes, line⟩ }
    | some w => { s with waiting := some { w with attributes := w.attributes ++ attributes } }

/-- The attributes that wait. -/
def attributes (s : ScanState) : List Attribute := (s.waiting.map Waiting.attributes).getD []

/-- The line at which a declaration on a given line starts. -/
def startLine (s : ScanState) (line : Nat) : Nat := (s.waiting.map Waiting.line).getD line

/-- The state after the declaration of a class. -/
def addClass (s : ScanState) (file : Path) (line : Nat) (head : ClassHead) : ScanState :=
  { s with
    classes := s.classes ++
      [⟨head.name, file, s.startLine line, head.bases, s.attributes, []⟩]
    awaited := some s.classes.length }

/-- The state after the declaration of a method, which belongs to the innermost class if its body is
open at this depth. -/
def addMethod (s : ScanState) (line : Nat) (head : MethodHead) : ScanState :=
  match s.bodies with
  | body :: _ =>
    if s.depth = body.depth then
      let method : Action :=
        ⟨head.name, s.startLine line, head.modifiers.contains "public".toList, s.attributes⟩
      { s with classes := s.classes.modify body.place (·.withMethod method) }
    else s
  | [] => s

/-- The state after the code of a line behind its attributes. -/
def addCode (s : ScanState) (file : Path) (line : Nat) (code : Text) : ScanState :=
  if code.isEmpty then s
  else
    let s := match ClassHead.find? code with
      | some head => s.addClass file line head
      | none =>
        match MethodHead.read? code with
        | some head => s.addMethod line head
        | none => s
    { s with waiting := none }

/-- The state after the declarations of a line that has lost its comments. -/
def declarations (s : ScanState) (file : Path) (line : Nat) (text : Text) : ScanState :=
  if (Text.trim text).isEmpty then s
  else
    let (attributes, code) := splitAttributes text
    (s.addAttributes line attributes).addCode file line code

/-- The state after a line. -/
def addLine (file : Path) (s : ScanState) (line : Nat) (text : Text) : ScanState :=
  let (visible, inComment) := withoutComments text s.inComment
  let (code, inCodeComment) := bareCode text s.inCodeComment
  let s := { s with inComment, inCodeComment }
  code.foldl brace (s.declarations file line visible)

end ScanState

/-- The state after all lines of a text. -/
def scan (file : Path) (lines : List Text) : ScanState :=
  (lines.zipIdx 1).foldl (fun s (text, line) => s.addLine file line text) {}

/-- The classes of a source file, in the order of their declarations. -/
def classesOf (source : Text) (file : Path) : List ClassDecl :=
  (scan file (Text.lines source)).classes

end RouteAtlas.Controllers
