import RouteAtlas.Script.Token

/-!
# Indentation

The white space in front of a line decides which block the line belongs to. A tab advances to the
next multiple of eight columns. So that the blocks do not depend on this choice, the columns are
also counted with tabs of width one, and both counts must agree on how a line compares with the
blocks around it.

A backslash may split the white space over several lines; then the columns before the first
backslash count, unless there are none.
-/

namespace RouteAtlas.Script

/-- Columns in front of a line, counted with wide tabs and with narrow ones. -/
structure Margin where
  wide : Nat
  narrow : Nat
  deriving DecidableEq, Repr

/-- The columns between two stops of a wide tab. -/
def tabWidth : Nat := 8

/-- The white space in front of a line, given what was counted of it and what the first backslash
fixed: the margin and how many characters were read. -/
def marginFrom (m : Margin) (fixed read : Nat) : Text → Option (Margin × Nat)
  | ' ' :: rest => marginFrom ⟨m.wide + 1, m.narrow + 1⟩ fixed (read + 1) rest
  | '\t' :: rest =>
    marginFrom ⟨(m.wide / tabWidth + 1) * tabWidth, m.narrow + 1⟩ fixed (read + 1) rest
  | '\x0c' :: rest => marginFrom ⟨0, 0⟩ fixed (read + 1) rest
  | '\\' :: '\n' :: rest =>
    if rest.isEmpty then none
    else marginFrom m (if fixed = 0 then m.wide else fixed) (read + 2) rest
  | '\\' :: _ => none
  | _ => some (if fixed = 0 then m else ⟨fixed, fixed⟩, read)

/-- How deep blocks may be nested. -/
def blockLimit : Nat := 99

/-- The blocks that a line with a margin closes, innermost first: what remains and how many. -/
def closeBlocks (m : Margin) : List Margin → Nat → List Margin × Nat
  | outer :: rest, closed =>
    if m.wide < outer.wide then closeBlocks m rest (closed + 1) else (outer :: rest, closed)
  | [], closed => ([], closed)

/-- The margins of the blocks around a line, innermost first, and the tokens that open or close
blocks before it. The outermost block, of margin zero, is not in the list. -/
def settle (m : Margin) (blocks : List Margin) : Option (List Token × List Margin) :=
  let top := blocks.headD ⟨0, 0⟩
  if top.wide < m.wide then
    if blocks.length < blockLimit && top.narrow < m.narrow then some ([.indent], m :: blocks)
    else none
  else
    let (left, closed) := closeBlocks m blocks 0
    if left.headD ⟨0, 0⟩ = m then some (List.replicate closed .dedent, left) else none

end RouteAtlas.Script
