import RouteAtlas.Command.Run

/-!
# How dialogues go

A dialogue that is put together goes on with its second part where the first one has left the
session (`run_bind`). Whatever only says lines adds them to what was printed (`Session.said`). A
program whose first argument is the name of a verb carries out that verb (`run_runProgram`).

A session is the tree, what is still to be typed, what was printed, and whether anything was asked.
The equations say what each step of a dialogue does with all of it, and how a dialogue can end
early: with an exit code, or with a fault that escapes to the one who has started the program. A
reply is what is seen of a whole run from outside.
-/

namespace RouteAtlas.Command

/-- The session after lines were said one after the other. -/
def Session.said (s : Session) (lines : List Text) : Session :=
  { s with output := (lines.map (· ++ ['\n'])).reverse ++ s.output }

theorem Session.said_said (s : Session) (lines more : List Text) :
    (s.said lines).said more = s.said (lines ++ more) := by
  simp [said]

open Dialogue

namespace Dialogue

variable {α β : Type}

/-- The second part goes on in the session that the first one leaves, unless that has ended the
dialogue. -/
theorem run_bind (dialogue : Dialogue α) (next : α → Dialogue β) (s : Session) :
    (dialogue >>= next).run.run s =
      match dialogue.run.run s with
      | (.ok a, s') => (next a).run.run s'
      | (.error halt, s') => (.error halt, s') := by
  rw [ExceptT.run_bind, StateT.run_bind]
  rcases dialogue.run.run s with ⟨_ | _, u⟩ <;> rfl

theorem run_get (s : Session) : (get : Dialogue Session).run.run s = (.ok s, s) := rfl

/-- Work on the tree changes nothing but the tree. -/
theorem run_onTree (work : StateM FileTree α) (s : Session) :
    (onTree work).run.run s =
      (.ok (work.run s.tree).1, { s with tree := (work.run s.tree).2 }) := rfl

/-- Saying several lines is saying them together. -/
theorem run_forM_say (lines : List Text) (s : Session) :
    (lines.forM say).run.run s = (.ok (), s.said lines) := by
  induction lines generalizing s with
  | nil => rfl
  | cons line rest ih =>
    -- What is printed is held backwards, so a line comes in front of all before it.
    show (say line >>= fun _ => rest.forM say).run.run s = _
    rw [run_bind]
    show (rest.forM say).run.run (s.said [line]) = _
    rw [ih, Session.said_said, List.singleton_append]

/-- What was provided is taken, and its messages are printed. -/
theorem run_provided {α : Type} (p : Provision α) (s : Session) :
    (provided p).run.run s = (.ok p.result, s.said p.messages) := by
  unfold provided
  rw [run_bind, run_forM_say]
  rfl

end Dialogue

variable {app : App} (s : Session)

/-- A path that is canonical stays the same. -/
theorem run_canonicalPath {path : Path} (h : s.tree.canonical path = .ok path) :
    (canonicalPath path).run.run s = (.ok path, s) := by
  unfold canonicalPath
  rw [run_bind, run_get]
  dsimp only
  rw [h]
  rfl

/-- Behind the name of a verb stand its own arguments. -/
theorem run_runProgram (base : Path) (v : Verb) (words : List Text)
    (hroot : s.tree.canonical app.root = .ok app.root) :
    (runProgram app base (v.name :: words)).run.run s = (v.run app words).run.run s := by
  have hprogram : runProgram app base (v.name :: words) =
      canonicalPath app.root >>= fun root => v.run { app with root } words := by
    cases v <;> rfl
  rw [hprogram, run_bind, run_canonicalPath s hroot]

/-- The kind of project stands behind its option. -/
theorem run_discover (word : Text) :
    (Verb.discover.run app ["-t".toList, word]).run.run s = (runDiscover app word).run.run s := by
  have hread : Verb.discover.grammar.read ["-t".toList, word] =
      .ok ⟨[⟨Options.project, word⟩], []⟩ := rfl
  unfold Verb.run readArguments
  rw [hread]
  rfl

/-- The verb without arguments carries out its command. -/
theorem run_rediscover :
    (Verb.rediscover.run app []).run.run s = (runRediscover app []).run.run s := by
  have hread : Verb.rediscover.grammar.read [] = .ok {} := rfl
  unfold Verb.run readArguments
  rw [hread]
  rfl

/-- Without an index that can be read, the kind of project is not known. A kind that no text spells
is unknown to the registry. -/
theorem run_storedProject :
    (storedProject app).run.run s =
      match app.store.load s.tree with
      | .ok i =>
        match CodeText.toText? i.project.framework with
        | some framework => (.ok framework, s)
        | none =>
          (fail (UnknownBackend.message
            ⟨Text.escapedCode i.project.framework, app.registry.frameworks⟩) :
              Dialogue Text).run.run s
      | .error (.absent _) => (.ok [], s)
      | .error fault =>
        if fault.isCorrupt then (.ok [], s) else (.error (.escape (.index (.load fault))), s) := by
  unfold storedProject
  rw [run_bind, run_get]
  dsimp only
  rcases app.store.load s.tree with fault | i
  · -- What cannot be read is of no use; only some of the faults are to be told.
    cases fault
    case absent => rfl
    all_goals
      dsimp only
      split <;> rfl
  · dsimp only
    cases CodeText.toText? i.project.framework <;> rfl

/-- The kind of project of a loaded index that is made of characters. -/
theorem run_storedProject_of_load {i : Index} (h : app.store.load s.tree = .ok ↑i) :
    (storedProject app).run.run s = (.ok i.project.framework, s) := by
  rw [run_storedProject, h]
  dsimp only
  rw [Index.coded, Project.coded, CodeText.toText?_ofText]

end RouteAtlas.Command
