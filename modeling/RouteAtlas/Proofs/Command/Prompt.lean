import RouteAtlas.Proofs.Command.Answer
import RouteAtlas.Proofs.Command.Dialogue
import RouteAtlas.Proofs.Discovery.Session

/-!
# Asking for the kind of project

The question lists the backends of the registry with their numbers, and one line is read as the
answer to it (`run_askForBackend`). The backend is selected whose number the line denotes, if it
denotes one; without a backend a query ends, and says that there is no index
(`run_loadedIndex_of_none`). There is one exception: digits that make no numeral are no answer at
all, and what goes wrong with them escapes from the dialogue. `prompt_selects_by_numeral` puts this
together.

A query asks only where there is no index, and whatever the question comes to, it changes nothing
but what was printed and what is left to read (`askForBackend_keeps`). So the tree is still the same
when the query fails.
-/

namespace RouteAtlas.Command

open Dialogue
open Text (decimalDigit?)

/-- The line that is typed next, without its end. -/
def typedLine (input : Text) : Text := input.takeWhile (· != '\n')

/-- The session in which the question was asked and a line was read. -/
def Session.questioned (s : Session) (registry : Registry) : Session :=
  { s.said (questionLines registry) with
    output := "Select option: ".toList :: (s.said (questionLines registry)).output
    input := (s.input.dropWhile (· != '\n')).drop 1
    asked := true }

/-- What the question comes to depends on what the line that was typed selects. -/
theorem run_askForBackend (registry : Registry) (s : Session) :
    (askForBackend registry).run.run s =
      if s.input.isEmpty then (.ok none, s.questioned registry)
      else match selected? registry.backends (typedLine s.input) with
        | .error fault => (.error (.escape (.answer fault)), s.questioned registry)
        | .ok (some b) => (.ok (some b), s.questioned registry)
        | .ok none => (.ok none, (s.questioned registry).said ["Invalid selection.".toList]) := by
  have hread : (readLine?).run.run
      { s.said (questionLines registry) with
        output := "Select option: ".toList :: (s.said (questionLines registry)).output } =
      (.ok (if s.input.isEmpty then none else some (typedLine s.input)), s.questioned registry) := rfl
  unfold askForBackend
  rw [run_bind, run_forM_say]
  dsimp only
  rw [run_bind]
  show (readLine? >>= _).run.run { s.said (questionLines registry) with
    output := "Select option: ".toList :: (s.said (questionLines registry)).output } = _
  rw [run_bind, hread]
  dsimp only
  cases s.input.isEmpty with
  | true => rfl
  | false =>
    rw [if_neg Bool.false_ne_true, if_neg Bool.false_ne_true]
    dsimp only
    rcases selected? registry.backends (typedLine s.input) with fault | _ | b <;> rfl

/-- The result is what the answer selects, also where nothing is left to read. -/
theorem result_askForBackend {registry : Registry} {s : Session}
    {selected : Except AnswerFault (Option Backend)}
    (h : selected? registry.backends (typedLine s.input) = selected) :
    ((askForBackend registry).run.run s).1 = selected.mapError (.escape <| .answer ·) := by
  rw [run_askForBackend]
  cases hinput : s.input.isEmpty with
  | true =>
    rw [List.isEmpty_iff] at hinput
    rw [hinput] at h
    rw [if_pos rfl, ← h]
    rfl
  | false =>
    rw [if_neg Bool.false_ne_true, h]
    rcases selected with fault | _ | b <;> rfl

/-- Asking changes nothing but what was printed and what there is to read. -/
theorem askForBackend_keeps (registry : Registry) (s : Session) :
    ((askForBackend registry).run.run s).2.tree = s.tree ∧
      ((askForBackend registry).run.run s).2.errors = s.errors := by
  rw [run_askForBackend]
  cases s.input.isEmpty with
  | true => exact ⟨rfl, rfl⟩
  | false =>
    rw [if_neg Bool.false_ne_true]
    rcases selected? registry.backends (typedLine s.input) with fault | _ | b <;> exact ⟨rfl, rfl⟩

/-! ## Without an index -/

variable {app : App} {s s' : Session}

/-- A query for which there is no index asks for the backend first. -/
theorem run_loadedIndex_of_absent (hresolver : app.resolver = .asks)
    (habsent : app.store.isPresent s.tree = .ok false) :
    (loadedIndex app).run.run s = (askForBackend app.registry >>= indexFor app).run.run s := by
  unfold loadedIndex
  rw [run_bind, run_get]
  dsimp only
  rw [habsent]
  dsimp only
  rw [pure_bind, if_neg Bool.false_ne_true, resolvedBackend, hresolver]

/-- A query that has neither an index nor a backend fails. -/
theorem run_indexFor_none (habsent : app.store.isPresent s.tree = .ok false) :
    (indexFor app none).run.run s =
      (.error (.exit failure),
        { s with
          errors := "Error: No route index found. Run \x27apimap discover\x27 first.\n".toList ::
            s.errors }) := by
  have hnothing : (app.store.loadOrDiscover app.registry none app.time).run s.tree =
      (⟨[], .error (.choice .nothingSelected)⟩, s.tree) := by
    rw [Store.run_loadOrDiscover, habsent]
  unfold indexFor
  rw [run_bind, run_onTree, hnothing]
  dsimp only
  rw [run_bind, run_provided]
  rfl

/-! ## What the question comes to -/

/-- How a query ends that has asked for a backend, with a result, and got none. -/
structure EndsQuery (app : App) (s : Session) (result : Except Halt (Option Backend)) : Prop where
  /-- What escaped goes on to escape. -/
  escaped : ∀ halt, result = .error halt → ((loadedIndex app).run.run s).1 = .error halt
  /-- Without a backend it fails, says that there is no index, and changes nothing. -/
  failed : result = .ok none →
    ∃ u : Session, (loadedIndex app).run.run s = (.error (.exit failure), u) ∧ u.tree = s.tree ∧
      u.errors =
        "Error: No route index found. Run \x27apimap discover\x27 first.\n".toList :: s.errors

theorem endsQuery_of_absent (hresolver : app.resolver = .asks)
    (habsent : app.store.isPresent s.tree = .ok false) :
    EndsQuery app s ((askForBackend app.registry).run.run s).1 := by
  obtain ⟨htree, herrors⟩ := askForBackend_keeps app.registry s
  have hquery := run_loadedIndex_of_absent hresolver habsent
  rw [run_bind] at hquery
  generalize (askForBackend app.registry).run.run s = asked at htree herrors hquery ⊢
  obtain ⟨result, u⟩ := asked
  constructor
  · rintro halt rfl
    rw [hquery]
  · rintro rfl
    dsimp only at htree herrors hquery
    rw [run_indexFor_none (htree ▸ habsent)] at hquery
    exact ⟨_, hquery, htree, by rw [herrors]⟩

/-- **The question selects the backend whose number the answer denotes**, in digits of any script,
and nothing if the answer denotes no such number; so does an empty line or none at all. A query
without an index that is left without a backend fails then, says that there is none and changes
nothing. The exceptions are answers of digits that cannot be read as a numeral. For them what goes
wrong escapes, from the question and from the query. -/
theorem prompt_selects_by_numeral (registry : Registry) (s : Session) :
    (IsUnreadable (Text.trim (typedLine s.input)) →
      ∃ fault, ((askForBackend registry).run.run s).1 = .error (.escape (.answer fault))) ∧
    (¬ IsUnreadable (Text.trim (typedLine s.input)) →
      ∃ chosen, ((askForBackend registry).run.run s).1 = .ok chosen ∧
        ∀ b, chosen = some b ↔ ∃ k, 1 ≤ k ∧ k ≤ registry.backends.length ∧
          IsNumeralOf (Text.trim (typedLine s.input)) k ∧ registry.backends[k - 1]? = some b) ∧
    ∀ app : App, app.registry = registry → app.resolver = .asks →
      app.store.isPresent s.tree = .ok false →
        EndsQuery app s ((askForBackend registry).run.run s).1 := by
  refine ⟨fun hunreadable => ?_, fun hreadable => ?_, ?_⟩
  · obtain ⟨fault, hfault⟩ := selected?_of_isUnreadable hunreadable registry.backends
    exact ⟨fault, result_askForBackend hfault⟩
  · obtain ⟨chosen, hselected, hchosen⟩ := selected?_of_readable hreadable registry.backends
    exact ⟨chosen, result_askForBackend hselected, hchosen⟩
  · rintro app rfl hresolver habsent
    exact endsQuery_of_absent hresolver habsent

/-- In an empty repository, the second of the bundled backends is selected by an Arabic two, and the
query fails after a zero. -/
theorem prompt_selects_by_numeral_of_arabic_two :
    ((askForBackend Registry.bundled).run.run ⟨{}, " ٢\n".toList, [], [], false⟩).1 =
        .ok (some .routers) ∧
      ∃ u, (loadedIndex ⟨⟨.slash, []⟩, .standard, .bundled, .asks, []⟩).run.run
        ⟨{}, "0\n".toList, [], [], false⟩ = (.error (.exit failure), u) := by
  have hreadable (c : Char) (d : Nat) (h : decimalDigit? c = some d) : ¬ IsUnreadable [c] := by
    rintro ⟨-, -, ⟨c', hc', hsign⟩ | hlong⟩
    · rw [List.mem_singleton.mp hc', h] at hsign
      cases hsign
    · rw [List.length_singleton] at hlong
      exact absurd hlong (by decide)
  have hzero : decimalDigit? '0' = some 0 := by decide
  constructor
  · have hanswer : Text.trim (typedLine " ٢\n".toList) = ['٢'] := by decide +kernel
    obtain ⟨-, hselects, -⟩ :=
      prompt_selects_by_numeral Registry.bundled ⟨{}, " ٢\n".toList, [], [], false⟩
    obtain ⟨chosen, hresult, hchosen⟩ := hselects (hanswer ▸ hreadable _ _ Text.decimalDigit?_twos.2)
    rw [hresult, (hchosen .routers).mpr
      ⟨2, by decide, by decide, hanswer ▸ .digit Text.decimalDigit?_twos.2, rfl⟩]
  · have hanswer : Text.trim (typedLine "0\n".toList) = ['0'] := by decide +kernel
    obtain ⟨-, hselects, hquery⟩ :=
      prompt_selects_by_numeral Registry.bundled ⟨{}, "0\n".toList, [], [], false⟩
    obtain ⟨chosen, hresult, hchosen⟩ := hselects (hanswer ▸ hreadable _ _ hzero)
    have hnone : chosen = none := by
      rw [Option.eq_none_iff_forall_ne_some]
      rintro b rfl
      obtain ⟨k, hk, -, hdenotes, -⟩ := (hchosen b).mp rfl
      rw [hanswer] at hdenotes
      have hvalue := hdenotes.value_eq
      rw [(IsNumeralOf.digit hzero).value_eq] at hvalue
      omega
    have habsent : (App.store ⟨⟨.slash, []⟩, .standard, .bundled, .asks, []⟩).isPresent {} =
        .ok false := by
      show Store.rootStore.isPresent {} = .ok false
      unfold Store.isPresent
      rw [Store.rootStore_path]
      cbv
    have hends := hquery ⟨⟨.slash, []⟩, .standard, .bundled, .asks, []⟩ rfl rfl habsent
    obtain ⟨u, hu, -⟩ := hends.failed (hnone ▸ hresult)
    exact ⟨u, hu⟩

/-- **A raised two is a digit but no numeral.** What goes wrong with it escapes, where the question
was to find no backend. -/
theorem prompt_of_raised_two :
    ((askForBackend Registry.bundled).run.run ⟨{}, "²\n".toList, [], [], false⟩).1 =
      .error (.escape (.answer (.noNumeral ['²']))) := by
  have hline : typedLine "²\n".toList = ['²'] := by decide +kernel
  have htrim : Text.trim ['²'] = ['²'] := by decide +kernel
  have hdigits : leadingDigits ['²'] = [] := by rw [leadingDigits, Text.decimalDigit?_twos.1]
  have hselected : selected? Registry.bundled.backends (typedLine "²\n".toList) =
      .error (.noNumeral ['²']) := by
    unfold selected?
    rw [hline, htrim]
    dsimp only
    rw [hdigits, List.all_cons, Text.isDigit_raisedTwo]
    rfl
  rw [result_askForBackend hselected, Except.mapError]

end RouteAtlas.Command
