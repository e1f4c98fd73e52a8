import Mathlib.Algebra.Group.Nat.Even
import RouteAtlas.Proofs.Controllers.Attribute

/-!
# Verbatim strings

A verbatim string writes each quote of its text twice and leaves backslashes alone
(`value_quotesDoubled`). Where strings are looked for, though, a backslash takes the character
behind it along in any string. What stands between the quotes of a verbatim string is found
nevertheless if each quote of its text, and its end, has an even number of backslashes in front
(`staysInString_quotesDoubled`).

As the template of an attribute, a verbatim string that is found has its own text, unless this text
names a template: it holds `template:` or `Template =` in front of a quote
(`template?_verbatimLiteral_iff`). The names are looked for in the middle of strings as well. Quotes
of the text are written twice, so that a string seems to begin there, and its text is never the
whole one, since the name is missing from it (`value_ne_of_namedQuotation?`).

One pass tells whether each quote has an even number of backslashes in front (`keepsQuotes_iff`). It
takes a backslash and the character behind it together, as the scan of strings does, so that what is
true of the scan is shown by the recursion of that pass. And that no string which seems to begin
inside has the whole text is shown by counting: doubling the quotes leaves as many other characters
(`countPlain_quotesDoubled`), and some of them are in the name.
-/

namespace RouteAtlas.Controllers

/-! ## Literals -/

/-- What stands between the quotes of a verbatim string: each quote is written twice, and nothing
else is changed. -/
def quotesDoubled (t : Text) : Text := t.flatMap fun c => if c = '"' then ['"', '"'] else [c]

/-- The verbatim string that denotes a text. -/
def verbatimLiteral (t : Text) : Text := '@' :: '"' :: (quotesDoubled t ++ ['"'])

/-- Without characters there is nothing to be doubled. -/
@[simp] theorem quotesDoubled_nil : quotesDoubled [] = [] := rfl

theorem quotesDoubled_cons_quote (t : Text) :
    quotesDoubled ('"' :: t) = '"' :: '"' :: quotesDoubled t := rfl

theorem quotesDoubled_cons_of_ne {c : Char} (h : c ≠ '"') (t : Text) :
    quotesDoubled (c :: t) = c :: quotesDoubled t := by
  rw [quotesDoubled, List.flatMap_cons, if_neg h]
  rfl

/-- The verbatim string denotes the text. -/
theorem value_quotesDoubled (t : Text) : (⟨true, quotesDoubled t⟩ : Quotation).value = t := by
  rw [Quotation.value, if_pos rfl]
  induction t with
  | nil => rfl
  | cons c t ih =>
    by_cases hquote : c = '"'
    · subst hquote
      rw [quotesDoubled_cons_quote, replacePair, if_pos ⟨rfl, rfl⟩, ih]
    · rw [quotesDoubled_cons_of_ne hquote, replacePair_cons (fun h => absurd h hquote), ih]

/-! ## Backslashes in front of quotes -/

/-- The number of backslashes at the end of a text. -/
def endingBackslashes (s : Text) : ℕ := (s.reverse.takeWhile (· == '\\')).length

/-- Each quote of a text, and the one that is put at its end, has an even number of backslashes in
front. So none of them is taken along by a backslash where backslashes are taken for escapes. -/
def BackslashesPaired (t : Text) : Prop :=
  ∀ front back, t ++ ['"'] = front ++ '"' :: back → Even (endingBackslashes front)

/-- The same as it is found in one pass: a backslash takes the character behind it along, which is
no quote and not the end. -/
def keepsQuotes : Text → Bool
  | [] => true
  | '\\' :: c :: t => c != '"' && keepsQuotes t
  | ['\\'] => false
  | _ :: t => keepsQuotes t

/-- Backslashes are counted up to the last character that is none. -/
theorem endingBackslashes_append {c : Char} (h : c ≠ '\\') (front back : Text) :
    endingBackslashes (front ++ c :: back) = endingBackslashes back := by
  have hstop : (c :: front.reverse).takeWhile (· == '\\') = [] := by
    rw [List.takeWhile_cons, if_neg (by simpa using h)]
  rw [endingBackslashes, endingBackslashes, List.reverse_append, List.reverse_cons,
    List.append_assoc, List.singleton_append, List.takeWhile_append, hstop, List.append_nil]
  split
  next hall => rw [hall]
  next => rfl

/-- An escape does not count for what stands behind it. -/
theorem even_endingBackslashes_escape (c : Char) (s : Text) :
    Even (endingBackslashes ('\\' :: c :: s)) ↔ Even (endingBackslashes s) := by
  by_cases hbackslash : c = '\\'
  · subst hbackslash
    have hpair : ['\\', '\\'].takeWhile (· == '\\') = ['\\', '\\'] := rfl
    rw [endingBackslashes, endingBackslashes, List.reverse_cons, List.reverse_cons,
      List.append_assoc, List.singleton_append, List.takeWhile_append, hpair]
    split
    next hall =>
      rw [hall, List.length_append]
      exact Nat.even_add_one.trans (not_iff_comm.mp Nat.even_add_one.symm)
    next => exact Iff.rfl
  · have hbehind := endingBackslashes_append hbackslash ['\\'] s
    rw [List.singleton_append] at hbehind
    rw [hbehind]

/-- A text without characters has no backslashes. -/
theorem backslashesPaired_nil : BackslashesPaired [] := by
  intro front back h
  cases front with
  | nil => exact Even.zero
  | cons c front => simp at h

/-- A single backslash in front of a quote is odd. -/
theorem not_backslashesPaired_of_escape (t : Text) : ¬ BackslashesPaired ('\\' :: '"' :: t) := by
  intro h
  have hone : Even (endingBackslashes ['\\']) := h ['\\'] (t ++ ['"']) rfl
  exact absurd hone (by decide)

theorem not_backslashesPaired_of_end : ¬ BackslashesPaired ['\\'] := by
  intro h
  have hone : Even (endingBackslashes ['\\']) := h ['\\'] [] rfl
  exact absurd hone (by decide)

/-- A backslash and the character behind it can be left out together, unless that is a quote. -/
theorem backslashesPaired_escape_iff {c : Char} (h : c ≠ '"') {t : Text} :
    BackslashesPaired ('\\' :: c :: t) ↔ BackslashesPaired t := by
  constructor
  · intro hpaired front back hsplit
    have heven := hpaired ('\\' :: c :: front) back
      (by rw [List.cons_append, List.cons_append, hsplit]; rfl)
    exact (even_endingBackslashes_escape c front).mp heven
  · intro hpaired front back hsplit
    rcases front with - | ⟨d, - | ⟨e, front⟩⟩
    · simp at hsplit
    · simp [h] at hsplit
    · obtain ⟨rfl, rfl, hrest⟩ : '\\' = d ∧ c = e ∧ t ++ ['"'] = front ++ '"' :: back := by
        simpa using hsplit
      exact (even_endingBackslashes_escape c front).mpr (hpaired front back hrest)

/-- Any other character can be left out alone. -/
theorem backslashesPaired_cons_iff {c : Char} (h : c ≠ '\\') {t : Text} :
    BackslashesPaired (c :: t) ↔ BackslashesPaired t := by
  have hending (s : Text) : endingBackslashes (c :: s) = endingBackslashes s :=
    endingBackslashes_append h [] s
  constructor
  · intro hpaired front back hsplit
    have heven := hpaired (c :: front) back (by rw [List.cons_append, hsplit]; rfl)
    rwa [hending] at heven
  · intro hpaired front back hsplit
    cases front with
    | nil => exact Even.zero
    | cons d front =>
      obtain ⟨rfl, hrest⟩ : c = d ∧ t ++ ['"'] = front ++ '"' :: back := by simpa using hsplit
      rw [hending]
      exact hpaired front back hrest

/-- One pass tells whether backslashes are paired. -/
theorem keepsQuotes_iff {t : Text} : keepsQuotes t = true ↔ BackslashesPaired t := by
  fun_induction keepsQuotes t with
  | case1 => exact iff_of_true rfl backslashesPaired_nil
  | case2 c t ih =>
    by_cases hquote : c = '"'
    · subst hquote
      exact iff_of_false (by simp) (not_backslashesPaired_of_escape t)
    · rw [backslashesPaired_escape_iff hquote, ← ih]
      simp [hquote]
  | case3 => exact iff_of_false (by simp) not_backslashesPaired_of_end
  | case4 c t hescape hend ih =>
    have hc : c ≠ '\\' := by
      rintro rfl
      cases t with
      | nil => exact hend rfl rfl
      | cons d t => exact hescape d t rfl rfl
    rw [backslashesPaired_cons_iff hc, ih]

/-- Backslashes that are paired do no harm: what stands between the quotes of a verbatim string is
read to its end, although backslashes are taken for escapes. -/
theorem staysInString_quotesDoubled {t : Text} (hline : '\n' ∉ t) (h : keepsQuotes t = true) :
    StaysInString (quotesDoubled t) := by
  fun_induction keepsQuotes t with
  | case1 => exact .nil
  | case2 c t ih =>
    rw [List.mem_cons, List.mem_cons, not_or, not_or] at hline
    rw [Bool.and_eq_true, bne_iff_ne] at h
    rw [quotesDoubled_cons_of_ne (by decide), quotesDoubled_cons_of_ne h.1]
    exact .escape (Ne.symm hline.2.1) (ih hline.2.2 h.2)
  | case3 => cases h
  | case4 c t hescape hend ih =>
    rw [List.mem_cons, not_or] at hline
    by_cases hquote : c = '"'
    · subst hquote
      exact .quotes (ih hline.2 h)
    · have hbackslash : c ≠ '\\' := by
        rintro rfl
        cases t with
        | nil => exact hend rfl rfl
        | cons d t => exact hescape d t rfl rfl
      rw [quotesDoubled_cons_of_ne hquote]
      exact .plain hquote hbackslash (ih hline.2 h)

/-- A verbatim string that ends where it should is sealed. -/
theorem isSealed_verbatimLiteral {t : Text} (h : StaysInString (quotesDoubled t)) :
    IsSealed (verbatimLiteral t) := by
  have hmark : IsSealed ['@'] :=
    ⟨sealsBrackets_of_avoids (by decide), sealsCommas_of_avoids (by decide)⟩
  exact ⟨hmark.brackets.append h.isSealed.brackets, hmark.commas.append h.isSealed.commas⟩

/-! ## Strings in the place of the template -/

/-- What names the template in front of a string: a word, and a sign behind it. -/
def templateNames : List (Text × Char) := [("template".toList, ':'), ("Template".toList, '=')]

/-- Only blanks. -/
def AllBlank (s : Text) : Prop := ∀ c ∈ s, Text.isBlank c = true

instance (s : Text) : Decidable (AllBlank s) := List.decidableBAll _ s

/-- No word goes on behind a text. -/
def EndsNoWord (s : Text) : Prop := ∀ c ∈ s.getLast?, Text.isWordChar c = false

/-- Somewhere in a text the template is named, and a quote follows, maybe with an at sign in front:
`template:` or `Template =`, with or without blanks around the sign. -/
def NamesTemplate (t : Text) : Prop :=
  ∃ front name blanks more mark back, name ∈ templateNames ∧ EndsNoWord front ∧ AllBlank blanks ∧
    AllBlank more ∧ mark ∈ [[], ['@']] ∧
    t = front ++ (name.1 ++ (blanks ++ name.2 :: (more ++ (mark ++ '"' :: back))))

/-! ### Where a string is found -/

/-- Blanks in front of something else are what is trimmed. -/
theorem trimStart_append {blanks rest : Text} (hblanks : AllBlank blanks)
    (hrest : ∀ c ∈ rest.head?, Text.isBlank c = false) : Text.trimStart (blanks ++ rest) = rest := by
  rw [Text.trimStart, List.dropWhile_append_of_pos hblanks]
  cases rest with
  | nil => rfl
  | cons c rest => exact Text.trimStart_cons (hrest c rfl) rest

theorem exists_blanks (s : Text) : ∃ blanks, AllBlank blanks ∧ s = blanks ++ Text.trimStart s :=
  ⟨s.takeWhile Text.isBlank, fun _ hc => List.mem_takeWhile_imp hc,
    List.takeWhile_append_dropWhile.symm⟩

/-- A string behind a word and a sign, with blanks where they may stand. -/
theorem exists_of_quotationBehind? {word s : Text} {sign : Char} {q : Quotation}
    (h : quotationBehind? word sign s = some q) :
    ∃ blanks more rest, AllBlank blanks ∧ AllBlank more ∧
      s = word ++ (blanks ++ sign :: (more ++ rest)) ∧ quotation? rest = some q := by
  obtain ⟨behind, hprefix, hfound⟩ := Option.bind_eq_some_iff.mp h
  have hs : word ++ behind = s := List.append_eq_of_isPrefixOf?_eq_some hprefix
  obtain ⟨blanks, hblanks, hbehind⟩ := exists_blanks behind
  split at hfound
  next c after hafter =>
    split at hfound
    next hc =>
      obtain ⟨more, hmore, hrest⟩ := exists_blanks after
      refine ⟨blanks, more, Text.trimStart after, hblanks, hmore, ?_, hfound⟩
      rw [← hrest, ← hc, ← hafter, ← hbehind, hs]
    next => cases hfound
  next => cases hfound

theorem quotationBehind?_append {word blanks more rest : Text} {sign : Char}
    (hblanks : AllBlank blanks) (hsign : Text.isBlank sign = false) (hmore : AllBlank more)
    (hrest : ∀ c ∈ rest.head?, Text.isBlank c = false) :
    quotationBehind? word sign (word ++ (blanks ++ sign :: (more ++ rest))) = quotation? rest := by
  have hbehind : Text.trimStart (blanks ++ sign :: (more ++ rest)) = sign :: (more ++ rest) := by
    refine trimStart_append hblanks ?_
    intro c hc
    obtain rfl : sign = c := by simpa using hc
    exact hsign
  rw [quotationBehind?, List.isPrefixOf?_eq_some_iff_append_eq.mpr rfl]
  dsimp only [bind, Option.bind]
  rw [hbehind]
  dsimp only
  rw [if_pos rfl, trimStart_append hmore hrest]

/-- **A named string that is found** stands behind one of the names, and no letter runs into the
name. The induction is on the text, with what is known of the character in front. -/
theorem exists_of_namedQuotation? {inWord : Bool} {s : Text} {q : Quotation}
    (h : namedQuotation? inWord s = some q) :
    ∃ front name rest, name ∈ templateNames ∧ (front = [] → inWord = false) ∧ EndsNoWord front ∧
      s = front ++ rest ∧ quotationBehind? name.1 name.2 rest = some q := by
  induction s generalizing inWord with
  | nil => cases h
  | cons c s ih =>
    rw [namedQuotation?] at h
    rcases Option.or_eq_some_iff.mp h with hhere | ⟨-, hlater⟩
    · -- The name begins here, so the character in front is no letter.
      have hword : inWord = false := by
        cases inWord with
        | false => rfl
        | true => cases hhere
      rw [hword, if_neg (by simp)] at hhere
      rcases Option.or_eq_some_iff.mp hhere with hfirst | ⟨-, hsecond⟩
      · exact ⟨[], _, c :: s, List.mem_cons_self, fun _ => hword, by simp [EndsNoWord], rfl, hfirst⟩
      · exact ⟨[], _, c :: s, List.mem_cons_of_mem _ List.mem_cons_self, fun _ => hword,
          by simp [EndsNoWord], rfl, hsecond⟩
    · -- It begins later; then this character is one more in front of it.
      obtain ⟨front, name, rest, hname, hstart, hends, rfl, hfound⟩ := ih hlater
      refine ⟨c :: front, name, rest, hname, by simp, ?_, rfl, hfound⟩
      cases front with
      | nil => simpa [EndsNoWord] using hstart rfl
      | cons d front => simpa [EndsNoWord] using hends

/-- And conversely one is found where a string stands behind a name, if not this one then one before
it. -/
theorem isSome_namedQuotation?_append {inWord : Bool} {front rest : Text} {name : Text × Char}
    (hname : name ∈ templateNames) (hstart : front = [] → inWord = false) (hends : EndsNoWord front)
    (hrest : (quotationBehind? name.1 name.2 rest).isSome = true) :
    (namedQuotation? inWord (front ++ rest)).isSome = true := by
  induction front generalizing inWord with
  | nil =>
    have hne : rest ≠ [] := by
      rintro rfl
      rcases List.mem_cons.mp hname with rfl | hname
      · cases hrest
      · rw [List.mem_singleton.mp hname] at hrest
        cases hrest
    -- The search goes on character by character, and a name is no empty text.
    obtain ⟨c, rest, rfl⟩ := List.exists_cons_of_ne_nil hne
    rw [List.nil_append, namedQuotation?, hstart rfl, if_neg (by simp), Option.isSome_or,
      Option.isSome_or, Bool.or_eq_true, Bool.or_eq_true]
    rcases List.mem_cons.mp hname with rfl | hname
    · exact .inl (.inl hrest)
    · rw [List.mem_singleton.mp hname] at hrest
      exact .inl (.inr hrest)
  | cons c front ih =>
    have hbehind : front = [] → Text.isWordChar c = false := by
      rintro rfl
      exact hends c rfl
    have hfront : EndsNoWord front := by
      cases front with
      | nil => simp [EndsNoWord]
      | cons d front => simpa [EndsNoWord] using hends
    rw [List.cons_append, namedQuotation?, Option.isSome_or, Bool.or_eq_true]
    exact .inr (ih hbehind hfront)

/-! ### In a verbatim string -/

/-- What holds no quote at the beginning of what stands between the quotes stands in the text as
well. -/
theorem exists_of_quotesDoubled_eq {t u rest : Text} (hu : '"' ∉ u)
    (h : quotesDoubled t ++ ['"'] = u ++ rest) :
    ∃ back, t = u ++ back ∧ rest = quotesDoubled back ++ ['"'] := by
  induction u generalizing t with
  | nil => exact ⟨t, rfl, h.symm⟩
  | cons c u ih =>
    rw [List.mem_cons, not_or] at hu
    cases t with
    | nil =>
      have hc : '"' = c := (List.cons.inj h).1
      exact absurd hc hu.1
    | cons d t =>
      by_cases hquote : d = '"'
      · subst hquote
        have hc : '"' = c := (List.cons.inj h).1
        exact absurd hc hu.1
      · rw [quotesDoubled_cons_of_ne hquote, List.cons_append, List.cons_append] at h
        obtain ⟨rfl, hrest⟩ := List.cons.inj h
        obtain ⟨back, rfl, hback⟩ := ih hu.2 hrest
        exact ⟨back, rfl, hback⟩

/-- A character other than a quote that stands between the quotes stands in the text as well, behind
what stands in front of it. -/
theorem exists_of_quotesDoubled_eq_cons {t front rest : Text} {c : Char} (hc : c ≠ '"')
    (h : quotesDoubled t ++ ['"'] = front ++ c :: rest) :
    ∃ before back, t = before ++ c :: back ∧ front = quotesDoubled before ∧
      rest = quotesDoubled back ++ ['"'] := by
  induction t generalizing front with
  | nil =>
    cases front with
    | nil => exact absurd (List.cons.inj h).1.symm hc
    | cons d front => simp at h
  | cons d t ih =>
    by_cases hquote : d = '"'
    · subst hquote
      -- A quote of the text is two characters, and neither of them is the one that is looked for.
      rw [quotesDoubled_cons_quote, List.cons_append, List.cons_append] at h
      rcases front with - | ⟨e, - | ⟨f, front⟩⟩
      · exact absurd (List.cons.inj h).1.symm hc
      · have hsecond := (List.cons.inj (List.cons.inj h).2).1
        exact absurd hsecond.symm hc
      · obtain ⟨rfl, hfirst⟩ := List.cons.inj h
        obtain ⟨rfl, hsecond⟩ := List.cons.inj hfirst
        obtain ⟨before, back, rfl, rfl, hrest⟩ := ih hsecond
        exact ⟨'"' :: before, back, rfl, rfl, hrest⟩
    · rw [quotesDoubled_cons_of_ne hquote, List.cons_append] at h
      cases front with
      | nil =>
        obtain ⟨rfl, hrest⟩ := List.cons.inj h
        exact ⟨[], t, rfl, rfl, hrest.symm⟩
      | cons e front =>
        obtain ⟨rfl, hlater⟩ := List.cons.inj h
        obtain ⟨before, back, rfl, rfl, hrest⟩ := ih hlater
        exact ⟨d :: before, back, rfl, (quotesDoubled_cons_of_ne hquote before).symm, hrest⟩

/-- A string without characters ends at once. -/
theorem isSome_closedBody?_quote (s : Text) : (closedBody? ('"' :: s)).isSome = true := by
  cases s with
  | nil => rfl
  | cons c s =>
    by_cases hquote : c = '"'
    · subst hquote
      rw [closedBody?]
      cases closedBody? s <;> rfl
    · rw [closedBody?]
      · rfl
      · intro rest hrest
        exact hquote (List.cons.inj hrest).1

/-- A string begins with a quote, or with an at sign and a quote. -/
theorem exists_of_quotation? {s : Text} {q : Quotation} (h : quotation? s = some q) :
    ∃ mark rest, mark ∈ [[], ['@']] ∧ s = mark ++ '"' :: rest ∧
      closedBody? rest = some q.written := by
  unfold quotation? at h
  split at h
  next rest =>
    obtain ⟨body, hbody, rfl⟩ := Option.map_eq_some_iff.mp h
    exact ⟨['@'], rest, by simp, rfl, hbody⟩
  next rest =>
    obtain ⟨body, hbody, rfl⟩ := Option.map_eq_some_iff.mp h
    exact ⟨[], rest, by simp, rfl, hbody⟩
  next => cases h

/-- Between the quotes a string begins where the text has a quote, maybe with an at sign in front:
only the closing quote has no other one behind it. -/
theorem isSome_quotation?_quotesDoubled {t : Text} :
    (quotation? (quotesDoubled t ++ ['"'])).isSome = true ↔
      ∃ mark back, mark ∈ [[], ['@']] ∧ t = mark ++ '"' :: back := by
  constructor
  · intro h
    obtain ⟨q, hq⟩ := Option.isSome_iff_exists.mp h
    obtain ⟨mark, rest, hmark, hsplit, hclosed⟩ := exists_of_quotation? hq
    have hplain : '"' ∉ mark := by
      rcases List.mem_cons.mp hmark with rfl | hmark
      · simp
      · rw [List.mem_singleton.mp hmark]
        decide
    obtain ⟨back, rfl, hback⟩ := exists_of_quotesDoubled_eq hplain hsplit
    -- Behind the closing quote no string can end.
    cases back with
    | nil =>
      obtain rfl : rest = [] := (List.cons.inj hback).2
      cases hclosed
    | cons c back =>
      by_cases hquote : c = '"'
      · exact ⟨mark, back, hmark, by rw [hquote]⟩
      · rw [quotesDoubled_cons_of_ne hquote, List.cons_append] at hback
        exact absurd (List.cons.inj hback).1.symm hquote
  · rintro ⟨mark, back, hmark, rfl⟩
    have hclosed := isSome_closedBody?_quote (quotesDoubled back ++ ['"'])
    rcases List.mem_cons.mp hmark with rfl | hmark
    · rw [List.nil_append, quotesDoubled_cons_quote, List.cons_append, List.cons_append, quotation?,
        Option.isSome_map]
      exact hclosed
    · rw [List.mem_singleton.mp hmark, List.singleton_append, quotesDoubled_cons_of_ne (by decide),
        quotesDoubled_cons_quote, List.cons_append, List.cons_append, List.cons_append, quotation?,
        Option.isSome_map]
      exact hclosed

theorem quotesDoubled_append (s t : Text) :
    quotesDoubled (s ++ t) = quotesDoubled s ++ quotesDoubled t :=
  List.flatMap_append

/-- A text without quotes is written as it is. -/
theorem quotesDoubled_eq_self {s : Text} (h : '"' ∉ s) : quotesDoubled s = s := by
  induction s with
  | nil => rfl
  | cons c s ih =>
    rw [List.mem_cons, not_or] at h
    rw [quotesDoubled_cons_of_ne (Ne.symm h.1), ih h.2]

/-- Doubled quotes do not change whether a word goes on behind a text. -/
theorem endsNoWord_quotesDoubled {t : Text} :
    EndsNoWord ('@' :: '"' :: quotesDoubled t) ↔ EndsNoWord t := by
  rcases List.eq_nil_or_concat t with rfl | ⟨front, c, rfl⟩
  · exact iff_of_true (by simp [EndsNoWord]; decide) (by simp [EndsNoWord])
  · obtain ⟨before, hbefore⟩ : ∃ before, quotesDoubled (front ++ [c]) = before ++ [c] := by
      rw [quotesDoubled_append]
      by_cases hquote : c = '"'
      · subst hquote
        exact ⟨quotesDoubled front ++ ['"'], by rw [List.append_assoc]; rfl⟩
      · exact ⟨quotesDoubled front, by rw [quotesDoubled_cons_of_ne hquote]; rfl⟩
    rw [List.concat_eq_append, EndsNoWord, EndsNoWord, hbefore, ← List.cons_append,
      ← List.cons_append, List.getLast?_concat, List.getLast?_concat]

/-- What is asked of the names of the template: they are words without quotes, and their signs are
no blanks. -/
structure IsTemplateName (name : Text × Char) : Prop where
  word : '"' ∉ name.1
  sign : name.2 ≠ '"'
  sign_blank : Text.isBlank name.2 = false
  first : ∃ c letters, name.1 = c :: letters ∧ c ≠ '"' ∧ c ≠ '@'

/-- Both names are words without quotes, and neither is followed by a blank sign. -/
theorem isTemplateName_of_mem {name : Text × Char} (h : name ∈ templateNames) :
    IsTemplateName name := by
  rcases List.mem_cons.mp h with rfl | h
  · exact ⟨by decide, by decide, by decide, 't', _, rfl, by decide, by decide⟩
  · obtain rfl := List.mem_singleton.mp h
    exact ⟨by decide, by decide, by decide, 'T', _, rfl, by decide, by decide⟩

theorem AllBlank.quote_notMem {s : Text} (h : AllBlank s) : '"' ∉ s := by
  have hfree : Avoids s ['"'] := avoids_of_forall h (by decide)
  exact fun hquote => hfree '"' hquote List.mem_cons_self

/-- If a named string is found between the quotes, then the text names a template. -/
theorem namesTemplate_of_namedQuotation? {t : Text} {q : Quotation}
    (h : namedQuotation? false (verbatimLiteral t) = some q) : NamesTemplate t := by
  obtain ⟨front, name, rest, hname, -, hends, hsplit, hbehind⟩ := exists_of_namedQuotation? h
  obtain ⟨blanks, more, string, hblanks, hmore, rfl, hstring⟩ := exists_of_quotationBehind? hbehind
  have hsound := isTemplateName_of_mem hname
  obtain ⟨first, letters, hletters, hquote, hmark⟩ := hsound.first
  rw [hletters, List.cons_append, verbatimLiteral] at hsplit
  -- the name stands behind the opening quote
  rcases front with - | ⟨c, - | ⟨d, front⟩⟩
  · exact absurd (List.cons.inj hsplit).1.symm hmark
  · exact absurd (List.cons.inj (List.cons.inj hsplit).2).1.symm hquote
  · obtain ⟨rfl, hsecond⟩ := List.cons.inj hsplit
    obtain ⟨rfl, hinside⟩ := List.cons.inj hsecond
    obtain ⟨before, back, rfl, rfl, hback⟩ := exists_of_quotesDoubled_eq_cons hquote hinside
    have hplain : '"' ∉ letters ++ (blanks ++ name.2 :: more) := by
      have hword := hsound.word
      rw [hletters, List.mem_cons, not_or] at hword
      simp [hword.2, hblanks.quote_notMem, hmore.quote_notMem, Ne.symm hsound.sign]
    have hstring' : quotesDoubled back ++ ['"'] =
        (letters ++ (blanks ++ name.2 :: more)) ++ string := by
      rw [← hback]
      simp
    obtain ⟨behind, rfl, rfl⟩ := exists_of_quotesDoubled_eq hplain hstring'
    obtain ⟨mark, back, hmark, rfl⟩ :=
      isSome_quotation?_quotesDoubled.mp (Option.isSome_iff_exists.mpr ⟨q, hstring⟩)
    refine ⟨before, name, blanks, more, mark, back, hname, endsNoWord_quotesDoubled.mp hends,
      hblanks, hmore, hmark, ?_⟩
    rw [hletters]
    simp

/-- If the text names a template, then a named string is found between the quotes: its quotes are
written twice, and the second one of a pair ends a string that the first one begins. -/
theorem isSome_namedQuotation?_of_namesTemplate {t : Text} (h : NamesTemplate t) :
    (namedQuotation? false (verbatimLiteral t)).isSome = true := by
  obtain ⟨front, name, blanks, more, mark, back, hname, hends, hblanks, hmore, hmark, rfl⟩ := h
  have hsound := isTemplateName_of_mem hname
  have hliteral : verbatimLiteral
        (front ++ (name.1 ++ (blanks ++ name.2 :: (more ++ (mark ++ '"' :: back))))) =
      ('@' :: '"' :: quotesDoubled front) ++ (name.1 ++ (blanks ++ name.2 ::
        (more ++ (quotesDoubled (mark ++ '"' :: back) ++ ['"'])))) := by
    rw [verbatimLiteral, quotesDoubled_append, quotesDoubled_append,
      quotesDoubled_eq_self hsound.word, quotesDoubled_append,
      quotesDoubled_eq_self hblanks.quote_notMem, quotesDoubled_cons_of_ne hsound.sign,
      quotesDoubled_append more, quotesDoubled_eq_self hmore.quote_notMem]
    simp
  -- Behind the name and the sign a string seems to begin.
  have hstring : (quotation? (quotesDoubled (mark ++ '"' :: back) ++ ['"'])).isSome = true :=
    isSome_quotation?_quotesDoubled.mpr ⟨mark, back, hmark, rfl⟩
  have hhead :
      ∀ c ∈ (quotesDoubled (mark ++ '"' :: back) ++ ['"']).head?, Text.isBlank c = false := by
    intro c hc
    rcases List.mem_cons.mp hmark with rfl | hmark
    · obtain rfl : '"' = c := Option.some.inj hc
      decide
    · rw [List.mem_singleton.mp hmark] at hc
      obtain rfl : '@' = c := Option.some.inj hc
      decide
  rw [hliteral]
  refine isSome_namedQuotation?_append hname (by simp) (endsNoWord_quotesDoubled.mpr hends) ?_
  rw [quotationBehind?_append hblanks hsound.sign_blank hmore hhead]
  exact hstring

/-! ### What a string in the place of the template denotes -/

/-- Replacing a pair by its second character only leaves characters out. -/
theorem replacePair_sublist (a b : Char) (s : Text) : (replacePair a b b s).Sublist s := by
  fun_induction replacePair a b b s with
  | case1 x y rest hpair ih =>
    rw [hpair.2]
    exact (ih.cons_cons b).cons x
  | case2 x y rest hpair ih => exact ih.cons_cons x
  | case3 rest => exact List.Sublist.refl rest

/-- The value of a string is what is left of it without the marks. -/
theorem Quotation.value_sublist (q : Quotation) : q.value.Sublist q.written := by
  rw [value]
  split
  · exact replacePair_sublist '"' '"' q.written
  · exact (replacePair_sublist '\\' '\\' _).trans (replacePair_sublist '\\' '"' q.written)

/-- The body of a string stands in the text. -/
theorem sublist_of_closedBody? {s body : Text} (h : closedBody? s = some body) : body.Sublist s := by
  fun_induction closedBody? s generalizing body with
  | case1 => cases h
  | case2 rest inner hinner ih =>
    obtain rfl := Option.some.inj h
    exact ((ih hinner).cons_cons '"').cons_cons '"'
  | case3 rest hnone ih =>
    obtain rfl := Option.some.inj h
    exact List.nil_sublist _
  | case4 rest hsingle =>
    obtain rfl := Option.some.inj h
    exact List.nil_sublist _
  | case5 => cases h
  | case6 c rest hline ih =>
    obtain ⟨inner, hinner, rfl⟩ := Option.map_eq_some_iff.mp h
    exact ((ih hinner).cons_cons c).cons_cons '\\'
  | case7 => cases h
  | case8 c rest _ _ _ _ ih =>
    obtain ⟨inner, hinner, rfl⟩ := Option.map_eq_some_iff.mp h
    exact (ih hinner).cons_cons c

/-- What is written in a string behind the name of the template stands behind that name. -/
theorem sublist_of_namedQuotation? {inWord : Bool} {s : Text} {q : Quotation}
    (h : namedQuotation? inWord s = some q) :
    ∃ name ∈ templateNames, (name.1 ++ q.written).Sublist s := by
  obtain ⟨front, name, rest, hname, -, -, rfl, hbehind⟩ := exists_of_namedQuotation? h
  obtain ⟨blanks, more, string, -, -, rfl, hstring⟩ := exists_of_quotationBehind? hbehind
  obtain ⟨mark, rest, -, rfl, hclosed⟩ := exists_of_quotation? hstring
  refine ⟨name, hname, List.Sublist.trans (List.Sublist.append_left ?_ name.1)
    (List.sublist_append_right front _)⟩
  have hrest : q.written.Sublist (mark ++ '"' :: rest) :=
    ((sublist_of_closedBody? hclosed).cons '"').trans (List.sublist_append_right mark _)
  exact (hrest.trans (List.sublist_append_right more _)).cons name.2 |>.trans
    (List.sublist_append_right blanks _)

/-- The number of characters that are no quotes. -/
def countPlain (s : Text) : ℕ := s.countP (· != '"')

/-- Characters other than quotes are counted piece by piece. -/
theorem countPlain_append (s t : Text) : countPlain (s ++ t) = countPlain s + countPlain t :=
  List.countP_append

theorem countPlain_quotesDoubled (t : Text) : countPlain (quotesDoubled t) = countPlain t := by
  induction t with
  | nil => rfl
  | cons c t ih =>
    by_cases hquote : c = '"'
    · subst hquote
      rw [quotesDoubled_cons_quote]
      simpa [countPlain] using ih
    · rw [quotesDoubled_cons_of_ne hquote]
      simpa [countPlain, hquote] using ih

/-- A template that is named in a verbatim string is not the text of that string: the name is
missing from it. -/
theorem value_ne_of_namedQuotation? {t : Text} {q : Quotation}
    (h : namedQuotation? false (verbatimLiteral t) = some q) : q.value ≠ t := by
  rintro rfl
  obtain ⟨name, hname, hsub⟩ := sublist_of_namedQuotation? h
  have hname8 : countPlain name.1 = 8 := by
    rcases List.mem_cons.mp hname with rfl | hname
    · rfl
    · rw [List.mem_singleton.mp hname]
      rfl
  have hwhole : countPlain (verbatimLiteral q.value) = 1 + countPlain q.value := by
    have hsplit : verbatimLiteral q.value = ['@', '"'] ++ (quotesDoubled q.value ++ ['"']) := rfl
    rw [hsplit, countPlain_append, countPlain_append, countPlain_quotesDoubled]
    rfl
  have hwritten : countPlain q.value ≤ countPlain q.written := q.value_sublist.countP_le
  have hle : countPlain (name.1 ++ q.written) ≤ countPlain (verbatimLiteral q.value) :=
    hsub.countP_le
  rw [countPlain_append, hname8, hwhole] at hle
  omega

/-- **The template of a verbatim string** is its text, unless the text names a template. -/
theorem template?_verbatimLiteral_iff {t : Text} (h : StaysInString (quotesDoubled t)) :
    template? (verbatimLiteral t) = some t ↔ ¬ NamesTemplate t := by
  cases hnamed : namedQuotation? false (verbatimLiteral t) with
  | none =>
    have hnot : ¬ NamesTemplate t := by
      intro hnames
      have hsome := isSome_namedQuotation?_of_namesTemplate hnames
      rw [hnamed] at hsome
      cases hsome
    have hstart : Text.trimStart (verbatimLiteral t) = verbatimLiteral t :=
      Text.trimStart_cons (by decide) _
    have hquotation : quotation? (verbatimLiteral t) = some ⟨true, quotesDoubled t⟩ := by
      rw [verbatimLiteral, quotation?, h.closedBody?]
      rfl
    refine iff_of_true ?_ hnot
    rw [template?, hnamed, hstart, hquotation]
    exact congrArg some (value_quotesDoubled t)
  | some q =>
    refine iff_of_false ?_ (not_not_intro (namesTemplate_of_namedQuotation? hnamed))
    rw [template?, hnamed]
    intro hsome
    exact value_ne_of_namedQuotation? hnamed (Option.some.inj hsome)

end RouteAtlas.Controllers
