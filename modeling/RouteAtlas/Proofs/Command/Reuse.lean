import RouteAtlas.Proofs.Backend.Registry
import RouteAtlas.Proofs.Command.Dialogue
import RouteAtlas.Proofs.Discovery.Run
import RouteAtlas.Proofs.Discovery.Session

/-!
# Which backend rediscovers

An index names the framework of the backend that wrote it, and rediscovering looks that up in the
registry. So whether the same backend is used again is a matter of what the framework finds. It
finds its own backend if there are no blanks around it and no backend that was registered before
bears it as a name (`registered_backend_is_found`). A backend in front that does is used instead,
and with blanks around its framework a backend may not be found at all
(`registered_backend_is_hidden`).
-/

namespace RouteAtlas

/-- A backend has discovered an index, in some tree at some time. -/
def Backend.Wrote (b : Backend) (i : Index) : Prop :=
  ∃ tree root time cancelAfter messages,
    (b.discover tree root time).resume cancelAfter [] = (.ok i, messages)

namespace Command

open Dialogue

variable {app : App} {word : Text} {b : Backend} {i : Index} (s : Session)

/-- For a word that is not empty, what discovers is the backend that the word finds. -/
theorem runDiscover_eq (hword : word ≠ []) :
    runDiscover app word =
      match app.registry.get word with
      | .ok b => discoverWith app b
      | .error fault => fail fault.message := by
  have hgiven : word.isEmpty = false := by simpa using hword
  unfold runDiscover Registry.choose
  rw [hgiven, if_neg Bool.false_ne_true, pure_bind]
  dsimp only
  rw [if_neg Bool.false_ne_true]
  cases app.registry.get word with
  | ok b => rfl
  | error fault => rfl

/-- Rediscovering an index is discovering for the framework it names. -/
theorem run_runRediscover (hwrote : b.Wrote i) (hload : app.store.load s.tree = .ok i) :
    (runRediscover app []).run.run s = (runDiscover app b.framework).run.run s := by
  obtain ⟨_, _, _, _, _, hdiscovered⟩ := hwrote
  obtain ⟨-, hframework⟩ := Backend.parts_of_discover hdiscovered
  show (storedProject app >>= runDiscover app).run.run s = _
  rw [run_bind, run_storedProject_of_load s hload]
  dsimp only
  rw [hframework]

/-- **A backend is found by its framework** if there are no blanks around that, or if the rest is
its name, and if none of the backends that were registered before answers to the rest: for a
framework without blanks, if none of them bears it as a name. Whatever was refused in between, and
whatever is registered later, makes no difference. What the framework finds is what an index that
the backend wrote is rediscovered with; if it finds nothing, that is said. -/
theorem registered_backend_is_found (before after : List Backend) (b : Backend)
    (hreturned : ((Registry.registerAll {} before).register b).isOk = true) :
    let r := Registry.registerAll {} (before ++ b :: after)
    let earlier := (Registry.registerAll {} before).backends
    (r.get b.framework = .ok b ↔
      (Text.trim b.framework = b.framework ∨ Text.lower b.name = lookupWord b.framework) ∧
        ∀ c ∈ earlier, c.key ≠ lookupWord b.framework ∧ Text.lower c.name ≠ lookupWord b.framework) ∧
    (Text.trim b.framework = b.framework →
      (r.get b.framework = .ok b ↔ ∀ c ∈ earlier, Text.lower c.name ≠ b.key)) ∧
    ∀ (app : App) (s : Session) (i : Index), app.registry = r → b.framework ≠ [] →
      b.Wrote i → app.store.load s.tree = .ok i →
      (∀ c, r.get b.framework = .ok c →
        (runRediscover app []).run.run s = (discoverWith app c).run.run s) ∧
      ∀ fault, r.get b.framework = .error fault →
        (runRediscover app []).run.run s = (fail fault.message : Dialogue Unit).run.run s := by
  intro r earlier
  obtain ⟨later, hbackends⟩ : ∃ later, r.backends = earlier ++ b :: later := by
    obtain ⟨later, hlater⟩ := Registry.exists_backends_registerAll hreturned after
    refine ⟨later, ?_⟩
    rw [← hlater]
    show (Registry.registerAll {} (before ++ b :: after)).backends = _
    rw [Registry.registerAll, List.foldl_append]
    rfl
  have hsilent (c : Backend) : c.answersTo (lookupWord b.framework) = false ↔
      c.key ≠ lookupWord b.framework ∧ Text.lower c.name ≠ lookupWord b.framework := by
    rw [← Bool.not_eq_true, Backend.answersTo_iff, not_or, eq_comm, eq_comm (b := Text.lower c.name)]
  have hfound : r.get b.framework = .ok b ↔
      (Text.trim b.framework = b.framework ∨ Text.lower b.name = lookupWord b.framework) ∧
        ∀ c ∈ earlier, c.key ≠ lookupWord b.framework ∧
          Text.lower c.name ≠ lookupWord b.framework := by
    rw [Registry.get_eq_ok_iff hbackends, Backend.answersTo_framework_iff]
    exact and_congr_right fun _ => forall₂_congr fun c _ => hsilent c
  refine ⟨hfound, fun hplain => ?_, ?_⟩
  · have hword : lookupWord b.framework = b.key := lookupWord_eq_lower_iff.mpr hplain
    rw [hfound, hword]
    refine ⟨fun h c hc => (h.2 c hc).2, fun h => ⟨.inl hplain, fun c hc => ⟨?_, h c hc⟩⟩⟩
    exact Registry.key_ne hbackends hc
  · intro app s i hregistry hframework hwrote hload
    refine ⟨fun c hc => ?_, fun fault hfault => ?_⟩
    · rw [run_runRediscover s hwrote hload, runDiscover_eq hframework, hregistry, hc]
    · rw [run_runRediscover s hwrote hload, runDiscover_eq hframework, hregistry, hfault]

/-- A backend that is refused, since its framework is taken. -/
def secondRouters : Backend where
  name := "Python, once more".toList
  language := "python".toList
  framework := "PYTHON".toList
  label := "StubBackend".toList

/-- A bundled backend is found between another one and one that is refused, and with it the index is
rediscovered that it wrote in a tree that held nothing. -/
theorem registered_backend_is_found_python :
    let app : App :=
      { root := ⟨.slash, []⟩, settings := .standard, time := []
        registry := Registry.registerAll {} ([.controllers] ++ .routers :: [secondRouters]) }
    ((Registry.registerAll {} [.controllers]).register .routers).isOk = true ∧
      Text.trim Backend.routers.framework = Backend.routers.framework ∧
      app.registry.get Backend.routers.framework = .ok .routers ∧
      Backend.routers.framework ≠ [] ∧
      ∃ u i, Backend.routers.Wrote i ∧ app.store.load u = .ok i ∧
        (runRediscover app []).run.run ⟨u, [], [], [], false⟩ =
          (discoverWith app .routers).run.run ⟨u, [], [], [], false⟩ := by
  intro app
  have hreturned : ((Registry.registerAll {} [.controllers]).register .routers).isOk = true := by
    decide +kernel
  have hplain : Text.trim Backend.routers.framework = Backend.routers.framework := by decide
  have hframework : Backend.routers.framework ≠ [] := by decide
  obtain ⟨-, hfound, hrediscovers⟩ :=
    registered_backend_is_found [.controllers] [secondRouters] .routers hreturned
  have hget : app.registry.get Backend.routers.framework = .ok .routers :=
    (hfound hplain).mpr (by decide +kernel)
  obtain ⟨u, hsave, hdirectory⟩ := Store.exists_save_emptyIndex
  have hload : app.store.load u = .ok Store.emptyIndex := Store.load_of_save hsave rfl hdirectory
  have hwrote : Backend.routers.Wrote Store.emptyIndex := by
    have hfiles : Source.files {} ⟨.slash, []⟩ Routers.scripts = .ok [] := by cbv
    have hdiscovered := Store.resume_discover_of_no_scripts hfiles
    exact ⟨{}, ⟨.slash, []⟩, [], none, _, Prod.ext hdiscovered rfl⟩
  refine ⟨hreturned, hplain, hget, hframework, u, Store.emptyIndex, hwrote, hload, ?_⟩
  exact (hrediscovers app ⟨u, [], [], [], false⟩ _ rfl hframework hwrote hload).1 _ hget

/-- Two backends of which the first one is called as the framework of the second one, and a backend
whose framework has blanks around it: all three are registered, but neither of the last two is found
by its framework. -/
theorem registered_backend_is_hidden :
    let first : Backend := ⟨"two".toList, "l".toList, "one".toList, "StubBackend".toList, .idle⟩
    let second : Backend := ⟨"Second".toList, "l".toList, "two".toList, "StubBackend".toList, .idle⟩
    let padded : Backend := ⟨"Third".toList, "l".toList, " x ".toList, "StubBackend".toList, .idle⟩
    ((Registry.registerAll {} [first]).register second).isOk = true ∧
      (Registry.registerAll {} [first, second]).get second.framework = .ok first ∧
      first ≠ second ∧
      ((Registry.registerAll {} []).register padded).isOk = true ∧
      (Registry.registerAll {} [padded]).get padded.framework =
        .error ⟨" x ".toList, [" x ".toList]⟩ := by
  decide +kernel

end Command

end RouteAtlas
