/-!
# Text

Text is a list of characters. Everything the atlas reads or prints (paths, class names,
source lines, documents) is taken apart with the few operations collected here: trimming by
a class of characters, splitting, searching for a part, padding and decimal numerals. At the end
stands the search for a text that comes twice.

A list is used rather than a packed string because every reader in this library is a recursion
on what is left to read; packed strings appear only where text enters or leaves the program.
-/

namespace RouteAtlas

/-- A text: its characters in order. Its length is its number of code points. -/
abbrev Text := List Char

namespace Text

/-- Drops the longest run of characters of the class `p` at the end. -/
def dropEndWhile (p : Char → Bool) (s : Text) : Text :=
  (s.reverse.dropWhile p).reverse

/-- Drops the longest runs of characters of the class `p` at both ends. -/
def trimWhile (p : Char → Bool) (s : Text) : Text :=
  dropEndWhile p (s.dropWhile p)

/-- The needle stands somewhere in the text, without a gap. The empty needle stands in every
text. -/
def hasPart (needle : Text) : Text → Bool
  | [] => needle.isEmpty
  | c :: rest => needle.isPrefixOf (c :: rest) || hasPart needle rest

/-- The search finds a part exactly if what stands in front of it, the part, and what stands behind
it make up the text. -/
theorem hasPart_iff {needle s : Text} : hasPart needle s = true ↔ needle <:+: s := by
  induction s with
  | nil => rw [hasPart, List.isEmpty_iff, List.infix_nil]
  | cons c s ih =>
    rw [hasPart, Bool.or_eq_true, List.isPrefixOf_iff_prefix, ih, List.infix_cons_iff]

/-- What follows the first place at which `needle` stands, and what precedes it. -/
def breakOn (needle : Text) : Text → Option (Text × Text)
  | [] => if needle.isEmpty then some ([], []) else none
  | c :: rest =>
    match needle.isPrefixOf? (c :: rest) with
    | some after => some ([], after)
    | none => (breakOn needle rest).map fun (before, after) => (c :: before, after)

/-- Puts `glue` between neighbouring parts. -/
def joinWith (glue : Text) (parts : List Text) : Text :=
  glue.intercalate parts

/-- Blanks are added at the right until the text is at least `width` long. -/
def padRight (width : Nat) (s : Text) : Text :=
  s ++ List.replicate (width - s.length) ' '

/-- The decimal numeral of a natural number. -/
def ofNat (n : Nat) : Text := Nat.toDigits 10 n

/-- The decimal numeral of an integer, with a minus sign when it is negative. -/
def ofInt : Int → Text
  | .ofNat n => ofNat n
  | .negSucc n => '-' :: ofNat (n + 1)

/-- Order by code points, the shorter of two texts first when one starts the other. -/
def le (a b : Text) : Bool := !decide (b < a)

/-- An ASCII digit. -/
def isAsciiDigit (c : Char) : Bool := '0' ≤ c && c ≤ '9'

/-- An ASCII letter. -/
def isAsciiLetter (c : Char) : Bool := ('a' ≤ c && c ≤ 'z') || ('A' ≤ c && c ≤ 'Z')

/-- The value of a hexadecimal digit of either case. -/
def hexValue? (c : Char) : Option Nat :=
  if '0' ≤ c && c ≤ '9' then some (c.toNat - '0'.toNat)
  else if 'a' ≤ c && c ≤ 'f' then some (c.toNat - 'a'.toNat + 10)
  else if 'A' ≤ c && c ≤ 'F' then some (c.toNat - 'A'.toNat + 10)
  else none

/-- The number that a list of digit values spells in the given base. -/
def valueInBase (base : Nat) (digits : List Nat) : Nat :=
  digits.foldl (fun value d => value * base + d) 0

/-- The number that ASCII digits spell. -/
def decimalValue (digits : Text) : Nat :=
  valueInBase 10 (digits.map fun c => c.toNat - '0'.toNat)

end Text

/-- The first text of a list that an earlier one equals; `seen` holds the earlier ones. -/
def firstRepeated (seen : List Text) : List Text → Option Text
  | [] => none
  | s :: rest => if s ∈ seen then some s else firstRepeated (s :: seen) rest

theorem firstRepeated_eq_none {seen texts : List Text} (h : firstRepeated seen texts = none) :
    texts.Nodup ∧ ∀ s ∈ texts, s ∉ seen := by
  induction texts generalizing seen with
  | nil => simp
  | cons s rest ih =>
    rw [firstRepeated] at h
    split at h
    · cases h
    · next hs =>
      obtain ⟨hrest, hseen⟩ := ih h
      refine ⟨List.nodup_cons.2 ⟨fun hm => hseen s hm List.mem_cons_self, hrest⟩, ?_⟩
      intro t ht
      rcases List.mem_cons.1 ht with rfl | ht
      · exact hs
      · exact fun hm => hseen t ht (List.mem_cons_of_mem _ hm)

end RouteAtlas
