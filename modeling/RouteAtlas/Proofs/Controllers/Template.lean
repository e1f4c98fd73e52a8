import Mathlib.Data.List.Basic
import RouteAtlas.Controllers.Attribute
import RouteAtlas.Proofs.Controllers.Word

/-!
# Templates that were written down

A template is written as a string in which each quote and each backslash is escaped. Whatever it is,
the string ends where it was meant to end, and what it denotes is the template
(`template?_stringLiteral`).

The one place where another string could be found than was written is the template that is given by
name: it is looked for in the middle of the template as well. It would have to be a string that
starts behind a colon, an equals sign or a blank, and no quote of an escaped string does, apart from
the closing one, which nothing follows (`QuotesGuarded`).
-/

namespace RouteAtlas.Controllers

/-! ## Strings -/

/-- A text that begins and ends in an open string: a backslash takes the character behind it along,
which does not break the line, and quotes come in pairs, which close the string and open it again.
-/
inductive StaysInString : Text → Prop
  | nil : StaysInString []
  | plain {c : Char} {s : Text} (hquote : c ≠ '"') (hbackslash : c ≠ '\\') (h : StaysInString s) :
    StaysInString (c :: s)
  | escape {c : Char} {s : Text} (hline : c ≠ '\n') (h : StaysInString s) :
    StaysInString ('\\' :: c :: s)
  | quotes {s : Text} (h : StaysInString s) : StaysInString ('"' :: '"' :: s)

/-- A string ends at the quote behind such a text if nothing follows. -/
theorem StaysInString.closedBody? {s : Text} (h : StaysInString s) :
    closedBody? (s ++ ['"']) = some s := by
  induction h with
  | nil => rfl
  | @plain c s hquote hbackslash _ ih =>
    rw [List.cons_append, Controllers.closedBody?, ih]
    · rfl
    · rintro rest rfl -
      exact hquote rfl
    · rintro rfl
      exact hquote rfl
    · rintro d rest rfl -
      exact hbackslash rfl
    · rintro rfl -
      exact hbackslash rfl
  | @escape c s hline _ ih =>
    rw [List.cons_append, List.cons_append, Controllers.closedBody?, if_neg hline, ih]
    rfl
  | @quotes s _ ih => rw [List.cons_append, List.cons_append, Controllers.closedBody?, ih]

/-- Escaped text does not start with a quote. -/
theorem head?_escaped_ne (s : Text) : (escaped s).head? ≠ some '"' := by
  cases s with
  | nil => simp
  | cons c s =>
    by_cases hspecial : c = '"' ∨ c = '\\'
    · rw [escaped_cons_of_special hspecial]
      simp
    · rw [escaped_cons_of_plain hspecial]
      intro h
      exact hspecial (.inl (by simpa using h))

/-- In an escaped text, no quote ends the string. -/
theorem staysInString_escaped (s : Text) : StaysInString (escaped s) := by
  induction s with
  | nil => exact .nil
  | cons c s ih =>
    by_cases hspecial : c = '"' ∨ c = '\\'
    · have hline : c ≠ '\n' := by
        rintro rfl
        rcases hspecial with h | h <;> cases h
      rw [escaped_cons_of_special hspecial]
      exact .escape hline ih
    · rw [escaped_cons_of_plain hspecial]
      rw [not_or] at hspecial
      exact .plain hspecial.1 hspecial.2 ih

/-! ## Escapes taken away -/

/-- A character that does not begin the pair stays. -/
theorem replacePair_cons {a b c x : Char} {s : Text} (h : x = a → s.head? ≠ some b) :
    replacePair a b c (x :: s) = x :: replacePair a b c s := by
  cases s with
  | nil => simp [replacePair]
  | cons y rest =>
    rw [replacePair, if_neg]
    rintro ⟨hx, rfl⟩
    exact h hx rfl

/-- An escaped text with its quotes restored: each backslash is still doubled. -/
def doubled (s : Text) : Text := s.flatMap fun c => if c = '\\' then ['\\', '\\'] else [c]

theorem doubled_cons (c : Char) (s : Text) :
    doubled (c :: s) = (if c = '\\' then ['\\', '\\'] else [c]) ++ doubled s := by
  rw [doubled, List.flatMap_cons]
  rfl

/-- Unescaping quotes leaves backslashes doubled. -/
theorem replacePair_escaped (s : Text) : replacePair '\\' '"' '"' (escaped s) = doubled s := by
  induction s with
  | nil => rfl
  | cons c s ih =>
    rw [doubled_cons]
    by_cases hquote : c = '"'
    · rw [escaped_cons_of_special (.inl hquote), hquote, replacePair, if_pos ⟨rfl, rfl⟩, ih,
        if_neg (by decide)]
      rfl
    by_cases hbackslash : c = '\\'
    · rw [escaped_cons_of_special (.inr hbackslash), hbackslash, if_pos rfl,
        replacePair_cons (fun _ => by simp), replacePair_cons (fun _ => head?_escaped_ne s), ih]
      rfl
    · rw [escaped_cons_of_plain (by simp [hquote, hbackslash]), if_neg hbackslash,
        replacePair_cons (fun h => absurd h hbackslash), ih]
      rfl

theorem replacePair_doubled (s : Text) : replacePair '\\' '\\' '\\' (doubled s) = s := by
  induction s with
  | nil => rfl
  | cons c s ih =>
    rw [doubled_cons]
    by_cases hbackslash : c = '\\'
    · rw [if_pos hbackslash, hbackslash, List.cons_append, List.cons_append, List.nil_append,
        replacePair, if_pos ⟨rfl, rfl⟩, ih]
    · rw [if_neg hbackslash, List.singleton_append,
        replacePair_cons (fun h => absurd h hbackslash), ih]

/-- Taking the escapes away restores the text. -/
theorem value_escaped (s : Text) : (⟨false, escaped s⟩ : Quotation).value = s := by
  rw [Quotation.value, if_neg (by simp), replacePair_escaped, replacePair_doubled]

/-! ## Templates given by name -/

/-- Each quote but the first character stands behind a backslash, or else nothing follows it. -/
def QuotesGuarded : Text → Prop
  | c :: d :: rest => (d = '"' → c = '\\' ∨ rest = []) ∧ QuotesGuarded (d :: rest)
  | _ => True

theorem QuotesGuarded.tail {c : Char} {s : Text} (h : QuotesGuarded (c :: s)) :
    QuotesGuarded s := by
  cases s with
  | nil => trivial
  | cons d rest => exact h.2

/-- A quote behind something has a backslash in front or nothing behind. -/
theorem QuotesGuarded.of_append {before : Text} {c : Char} {after : Text}
    (h : QuotesGuarded (before ++ c :: '"' :: after)) : c = '\\' ∨ after = [] := by
  induction before with
  | nil => exact h.1 rfl
  | cons d before ih => exact ih (QuotesGuarded.tail h)

/-- The quotes of an escaped string are guarded, whatever stands before them. -/
theorem quotesGuarded_escaped (c : Char) (s : Text) :
    QuotesGuarded (c :: (escaped s ++ ['"'])) := by
  induction s generalizing c with
  | nil => exact ⟨fun _ => .inr rfl, trivial⟩
  | cons d s ih =>
    by_cases hspecial : d = '"' ∨ d = '\\'
    · rw [escaped_cons_of_special hspecial]
      have hnext : QuotesGuarded ('\\' :: d :: (escaped s ++ ['"'])) := ⟨fun _ => .inl rfl, ih d⟩
      exact ⟨fun h => absurd h (by decide), hnext⟩
    · rw [escaped_cons_of_plain hspecial]
      exact ⟨fun h => absurd (.inl h) hspecial, ih d⟩

/-- Behind a sign and blanks there is no string if quotes are guarded. -/
theorem quotation?_of_guarded {before rest : Text} {sign : Char}
    (h : QuotesGuarded (before ++ sign :: rest)) (hsign : sign ≠ '\\') :
    quotation? (Text.trimStart rest) = none := by
  have hblanks : rest.takeWhile Text.isBlank ++ Text.trimStart rest = rest :=
    List.takeWhile_append_dropWhile
  -- What stands right before the string is the sign or a blank.
  obtain ⟨front, last, hlast, hne⟩ : ∃ front last,
      before ++ sign :: rest.takeWhile Text.isBlank = front ++ [last] ∧ last ≠ '\\' := by
    rcases List.eq_nil_or_concat (rest.takeWhile Text.isBlank) with hnil | ⟨blanks, last, hcons⟩
    · exact ⟨before, sign, by rw [hnil], hsign⟩
    · refine ⟨before ++ sign :: blanks, last, by rw [hcons]; simp, ?_⟩
      rintro rfl
      have hmem : '\\' ∈ rest.takeWhile Text.isBlank := by rw [hcons]; simp
      have hblank := List.mem_takeWhile_imp hmem
      exact absurd hblank (by decide)
  have hguarded : QuotesGuarded (front ++ last :: Text.trimStart rest) := by
    rw [← List.singleton_append, ← List.append_assoc, ← hlast, List.append_assoc, List.cons_append,
      hblanks]
    exact h
  unfold quotation?
  split
  next inside heq =>
    rw [heq] at hguarded
    have hafter : inside = [] := by
      have hsplit : front ++ last :: '@' :: '"' :: inside =
          (front ++ [last]) ++ '@' :: '"' :: inside := by
        simp
      rw [hsplit] at hguarded
      exact hguarded.of_append.resolve_left (by decide)
    rw [hafter]
    rfl
  next inside heq =>
    rw [heq] at hguarded
    rw [hguarded.of_append.resolve_left hne]
    rfl
  next => rfl

/-- Where quotes are guarded, no string begins behind a word and a sign. -/
theorem quotationBehind?_of_guarded {s : Text} {sign : Char} (h : QuotesGuarded s)
    (hsign : sign ≠ '\\') (word : Text) : quotationBehind? word sign s = none := by
  unfold quotationBehind?
  cases hprefix : word.isPrefixOf? s with
  | none => rfl
  | some rest =>
    have hs : word ++ rest = s := List.append_eq_of_isPrefixOf?_eq_some hprefix
    dsimp only [bind, Option.bind]
    split
    next c after heq =>
      split
      next hc =>
        have hblanks : rest.takeWhile Text.isBlank ++ c :: after = rest := by
          rw [← heq]
          exact List.takeWhile_append_dropWhile
        have hguarded : QuotesGuarded ((word ++ rest.takeWhile Text.isBlank) ++ c :: after) := by
          rw [List.append_assoc, hblanks, hs]
          exact h
        exact quotation?_of_guarded hguarded (hc ▸ hsign)
      next => rfl
    next => rfl

/-- No template is given by name where quotes are guarded. -/
theorem namedQuotation?_of_guarded {s : Text} (h : QuotesGuarded s) (inWord : Bool) :
    namedQuotation? inWord s = none := by
  induction s generalizing inWord with
  | nil => rfl
  | cons c rest ih =>
    rw [namedQuotation?, ih h.tail, quotationBehind?_of_guarded h (by decide),
      quotationBehind?_of_guarded h (by decide)]
    split <;> rfl

/-- The template of an attribute that has it as its only argument. -/
theorem template?_stringLiteral (s : Text) : template? (stringLiteral s) = some s := by
  have hquotation : quotation? (stringLiteral s) = some ⟨false, escaped s⟩ := by
    rw [stringLiteral, quotation?, (staysInString_escaped s).closedBody?]
    rfl
  have hstart : Text.trimStart (stringLiteral s) = stringLiteral s :=
    Text.trimStart_cons (by decide) _
  have hguarded : QuotesGuarded (stringLiteral s) := quotesGuarded_escaped '"' s
  rw [template?, namedQuotation?_of_guarded hguarded, hstart, hquotation]
  exact congrArg some (value_escaped s)

end RouteAtlas.Controllers
