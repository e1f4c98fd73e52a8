import RouteAtlas.Json.Printer
import RouteAtlas.Json.Reader
import Mathlib.Data.List.Basic

/-!
# Strings read back

A text is read back from between its quotes: `readString_quote`. The argument goes character by
character. `SpellsChar` says that a few characters of a document stand for one character of a
string: the printer writes them and the reader takes them back. Every character is spelled in one
of three ways (`exists_spellsChar`): as it is, by an escape with a letter, or, if it is a control
character without such an escape, by one with four digits, of which only the last two count.
-/

namespace RouteAtlas.Json

theorem hexValue?_digitChar : ∀ n < 16, Text.hexValue? (Nat.digitChar n) = some n := by decide

/-- Four hexadecimal digits are read back. -/
theorem fourHexDigits?_fourHex {n : Nat} (h : n < 0x10000) (rest : Text) :
    fourHexDigits? (fourHex n ++ rest) = some n := by
  have hdigit (k : Nat) : Text.hexValue? (hexDigit k) = some (k % 16) :=
    hexValue?_digitChar _ (Nat.mod_lt _ (by decide))
  have hvalue : Text.valueInBase 16 [n / 4096 % 16, n / 256 % 16, n / 16 % 16, n % 16] = n := by
    simp only [Text.valueInBase, List.foldl_cons, List.foldl_nil]
    omega
  simp [fourHex, fourHexDigits?, hdigit, hvalue]

/-- The digits of a control character name that character, provided that something follows. -/
theorem readCodeEscape_fourHex {c : Char} (h : c.toNat < 32) {rest : Text} (hrest : rest ≠ [])
    (place : Nat) :
    readCodeEscape ⟨fourHex c.toNat ++ rest, place⟩ = .ok (.char c, ⟨rest, place + 4⟩) := by
  have hlength : ¬ (fourHex c.toNat ++ rest).length ≤ 4 := by
    have hpos := List.length_pos_iff.mpr hrest
    rw [List.length_append, fourHex]
    simp only [List.length_cons, List.length_nil]
    omega
  have hpoint : CodePoint.ofCode? c.toNat = some (.char c) := by
    rw [CodePoint.ofCode?, if_neg (by omega), dif_neg (by omega), Char.ofNat_toNat]
  rw [readCodeEscape, if_neg hlength, fourHexDigits?_fourHex (by omega)]
  simp only
  rw [if_neg (by omega), hpoint]
  rfl

/-- A character that is no quote, backslash or control character is read as it is. -/
theorem readStringBody_plain {c : Char} (hquote : c ≠ '"') (hescape : c ≠ '\\')
    (hcontrol : ¬ c.toNat < 32) (start fuel place : Nat) (rest : Text) (read : CodeText) :
    readStringBody start (fuel + 1) ⟨c :: rest, place⟩ read =
      readStringBody start fuel ⟨rest, place + 1⟩ (.char c :: read) := by
  simp [readStringBody, hescape, hcontrol, Cursor.skip]

/-- An escape with a letter is read as the character that the letter names. -/
theorem readStringBody_escape {letter c : Char} (h : simpleEscape? letter = some c)
    (start fuel place : Nat) (rest : Text) (read : CodeText) :
    readStringBody start (fuel + 1) ⟨'\\' :: letter :: rest, place⟩ read =
      readStringBody start fuel ⟨rest, place + 2⟩ (.char c :: read) := by
  have hletter : letter ≠ 'u' := by
    rintro rfl
    exact absurd h (by simp [simpleEscape?])
  simp [readStringBody, h, Cursor.skip]

/-- An escape with the digits of a control character is read as that character. -/
theorem readStringBody_codeEscape {c : Char} (h : c.toNat < 32) (start fuel place : Nat)
    {rest : Text} (hrest : rest ≠ []) (read : CodeText) :
    readStringBody start (fuel + 1) ⟨'\\' :: 'u' :: fourHex c.toNat ++ rest, place⟩ read =
      readStringBody start fuel ⟨rest, place + 2 + 4⟩ (.char c :: read) := by
  have hread := readCodeEscape_fourHex h hrest (place + 2)
  simp only [readStringBody, List.cons_append, Cursor.skip, List.drop_succ_cons, List.drop_zero,
    hread]
  rfl

/-- The characters `q` of a document stand for the character `c` of a string. -/
structure SpellsChar (c : Char) (q : Text) : Prop where
  printed : quotePoint (.char c) = .ofText q
  nonempty : 0 < q.length
  noReturn : '\r' ∉ q
  read : ∀ (start fuel place : Nat) (rest : Text) (read : CodeText), rest ≠ [] →
    ∃ place', readStringBody start (fuel + 1) ⟨q ++ rest, place⟩ read =
      readStringBody start fuel ⟨rest, place'⟩ (.char c :: read)

theorem spellsChar_escape {letter c : Char} (h : simpleEscape? letter = some c)
    (hprinted : quotePoint (.char c) = .ofText ['\\', letter]) (hletter : letter ≠ '\r') :
    SpellsChar c ['\\', letter] where
  printed := hprinted
  nonempty := Nat.succ_pos _
  noReturn := by simp [hletter.symm]
  read := fun start fuel place rest read _ =>
    ⟨place + 2, readStringBody_escape h start fuel place rest read⟩

theorem not_return_mem_fourHex (n : Nat) : '\r' ∉ fourHex n := by
  have hdigit (k : Nat) : '\r' ≠ hexDigit k := by
    have : ∀ n < 16, '\r' ≠ Nat.digitChar n := by decide
    exact this _ (Nat.mod_lt _ (by decide))
  simp [fourHex, hdigit]

/-- Every character of a string is spelled in some way. -/
theorem exists_spellsChar (c : Char) : ∃ q, SpellsChar c q := by
  by_cases hletter : ∃ letter, simpleEscape? letter = some c ∧
      quotePoint (.char c) = .ofText ['\\', letter] ∧ letter ≠ '\r'
  · obtain ⟨letter, hescape, hprinted, hreturn⟩ := hletter
    exact ⟨_, spellsChar_escape hescape hprinted hreturn⟩
  · have hne (letter : Char) {d : Char} (h : simpleEscape? letter = some d)
        (hprinted : quotePoint (.char d) = .ofText ['\\', letter]) (hreturn : letter ≠ '\r') :
        c ≠ d := fun heq => hletter ⟨letter, heq ▸ h, heq ▸ hprinted, hreturn⟩
    have hquote : c ≠ '"' := hne '"' rfl rfl (by decide)
    have hescape : c ≠ '\\' := hne '\\' rfl rfl (by decide)
    have hreturn : c ≠ '\r' := hne 'r' rfl rfl (by decide)
    have hprinted : quotePoint (.char c) =
        if c.toNat < 32 then CodeText.ofText ('\\' :: 'u' :: fourHex c.toNat) else [.char c] := by
      have hn : c ≠ '\n' := hne 'n' rfl rfl (by decide)
      have ht : c ≠ '\t' := hne 't' rfl rfl (by decide)
      have hb : c ≠ '\x08' := hne 'b' rfl rfl (by decide)
      have hf : c ≠ '\x0c' := hne 'f' rfl rfl (by decide)
      simp [quotePoint, hquote, hescape, hreturn, hn, ht, hb, hf]
      rfl
    by_cases hcontrol : c.toNat < 32
    · refine ⟨'\\' :: 'u' :: fourHex c.toNat, hprinted.trans (if_pos hcontrol), by simp, ?_, ?_⟩
      · simp [not_return_mem_fourHex]
      · intro start fuel place rest read hrest
        exact ⟨_, readStringBody_codeEscape hcontrol start fuel place hrest read⟩
    · refine ⟨[c], hprinted.trans (if_neg hcontrol), by simp, by simpa using hreturn.symm, ?_⟩
      intro start fuel place rest read _
      exact ⟨_, readStringBody_plain hquote hescape hcontrol start fuel place rest read⟩

/-- The text `q` of a document, without its quotes, stands for the text `s`. -/
structure SpellsText (s q : Text) : Prop where
  printed : (CodeText.ofText s).flatMap quotePoint = CodeText.ofText q
  noReturn : '\r' ∉ q
  read : ∀ (start fuel place : Nat) (rest : Text) (read : CodeText), q.length < fuel →
    ∃ place', readStringBody start fuel ⟨q ++ '"' :: rest, place⟩ read =
      .ok (read.reverse ++ CodeText.ofText s, ⟨rest, place'⟩)

theorem exists_spellsText (s : Text) : ∃ q, SpellsText s q := by
  induction s with
  | nil =>
    refine ⟨[], rfl, by simp, fun start fuel place rest read hfuel => ⟨place + 1, ?_⟩⟩
    obtain ⟨fuel, rfl⟩ : ∃ n, fuel = n + 1 := Nat.exists_eq_add_one.mpr (Nat.zero_lt_of_lt hfuel)
    simp [readStringBody, Cursor.skip, CodeText.ofText]
  | cons c s ih =>
    obtain ⟨q, hprinted, hreturn, hread⟩ := ih
    obtain ⟨p, hprintedc, hpos, hreturnc, hreadc⟩ := exists_spellsChar c
    refine ⟨p ++ q, ?_, by simp [hreturn, hreturnc], ?_⟩
    · rw [CodeText.ofText, List.map_cons, List.flatMap_cons, hprintedc, ← CodeText.ofText, hprinted]
      simp [CodeText.ofText]
    · intro start fuel place rest read hfuel
      rw [List.length_append] at hfuel
      obtain ⟨fuel, rfl⟩ : ∃ n, fuel = n + 1 := Nat.exists_eq_add_one.mpr (by omega)
      obtain ⟨middle, hmiddle⟩ := hreadc start fuel place (q ++ '"' :: rest) read (by simp)
      obtain ⟨place', hend⟩ := hread start fuel middle rest (.char c :: read) (by omega)
      refine ⟨place', ?_⟩
      rw [List.append_assoc, hmiddle, hend]
      simp [CodeText.ofText]

/-- **Strings are read back.** A text between quotes, as it is printed, is read as that text. -/
theorem readString_quote (s : Text) :
    ∃ q, quote (.ofText s) = .ofText ('"' :: q ++ ['"']) ∧ '\r' ∉ q ∧
      ∀ rest place, ∃ place',
        readString ⟨'"' :: (q ++ '"' :: rest), place⟩ = .ok (.ofText s, ⟨rest, place'⟩) := by
  obtain ⟨q, hprinted, hreturn, hread⟩ := exists_spellsText s
  refine ⟨q, ?_, hreturn, fun rest place => ?_⟩
  · rw [quote, hprinted]
    simp [CodeText.ofText]
  · obtain ⟨place', hend⟩ := hread place (('"' :: (q ++ '"' :: rest)).length + 1) (place + 1) rest
      [] (by simp; omega)
    exact ⟨place', hend⟩

end RouteAtlas.Json
