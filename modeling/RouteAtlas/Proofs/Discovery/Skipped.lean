import RouteAtlas.Proofs.Discovery.Precancelled
import RouteAtlas.Proofs.Index.Identifiers

/-!
# Scripts that are passed over

The scan for routers visits one script after the other, and what it learns of a script depends on
that script alone: how it is called within the repository and either its routes or why there are
none (`Routers.visit`). A script of the latter kind, a bad one, is reported and contributes nothing,
so the routes that are found are those of the other scripts (`Routers.contributed`), and they make
the same index as if the bad scripts were not there (`Backend.discover_despite_bad_scripts`).

That is how a discovery recovers from scripts. There are things that it does not recover from, and
each of them ends the whole of it. A script that is a link leading back to itself cannot even be
named, and a script on which the reader runs out of its means is not read to its end; neither of
them can be visited. An entry that cannot be looked up, script or not, breaks off the walk that
comes to it. And a route may have a path that is no text, which is noticed only when the index is
built.

What the reader runs out of its means on depends on the machine. It is whatever it may be here: a
set of sources that is known from the circumstances of the scan.
-/

namespace RouteAtlas

namespace Routers

/-! ## Visits -/

/-- What a visit learns of a script: its name, and its routes or why there are none. -/
structure Visited where
  file : Text
  found : Except Text (List Discovered)

namespace Visited

/-- The routes that the script contributes. -/
def routes (v : Visited) : List Discovered :=
  match v.found with
  | .error _ => []
  | .ok routes => routes

/-- What is reported of the script: that it is passed over and why, or how many endpoints it has
unless it has no routes at all. -/
def messages (v : Visited) : List Text :=
  match v.found with
  | .error reason => ["  Skipped ".toList ++ v.file ++ ": ".toList ++ reason]
  | .ok [] => []
  | .ok routes =>
    ["  ".toList ++ v.file ++ ": ".toList ++ countText (routes.countP (·.kind == .endpoint))]

end Visited

/-- Whether a script can be read through, if it can be read at all. -/
def readingThrough (exhausts : Text → Option Exhaustion) (t : FileTree) (path : Path) :
    Except DiscoveryFault Unit :=
  match Source.read t path with
  | .ok source =>
    match exhausts source with
    | none => pure ()
    | some cause => throw (.exhausted cause)
  | .error _ => pure ()

/-- The visit of a script. A script that has no name within the repository, or that the reader
cannot read to its end, cannot be visited. -/
def visit (exhausts : Text → Option Exhaustion) (t : FileTree) (root path : Path) :
    Except DiscoveryFault Visited := do
  let file ← Source.relative t root path
  readingThrough exhausts t path
  pure ⟨file, routesOfFile t path file⟩

/-- The routes of visited scripts: first those of all routers, then all endpoints. -/
def contributed (visits : List Visited) : List Discovered :=
  let routes := visits.flatMap Visited.routes
  routes.filter (·.kind == .controller) ++ routes.filter (·.kind == .endpoint)

/-- What is reported behind the last visit. -/
def closing (visits : List Visited) : Text :=
  "Discovered ".toList ++ countText (visits.flatMap Visited.routes).length ++ ['.']

variable {t : FileTree} {root path : Path} {reported : List Text}
  {exhausts : Text → Option Exhaustion}

/-- Reading a script to its end reports nothing. -/
theorem resumeIn_readThrough (exhausts : Text → Option Exhaustion) (t : FileTree) (path : Path)
    (reported : List Text) :
    (readThrough t path).resumeIn { exhausts } reported =
      (readingThrough exhausts t path, reported) := by
  unfold readThrough readingThrough
  cases Source.read t path with
  | error fault => rfl
  | ok source =>
    dsimp only
    rw [Scan.resumeIn_endure]
    dsimp only
    cases exhausts source <;> rfl

/-- Where no source exhausts the reader, every script can be read through. -/
theorem readingThrough_none (t : FileTree) (path : Path) :
    readingThrough (fun _ => none) t path = .ok () := by
  unfold readingThrough
  cases Source.read t path <;> rfl

/-- The scan of one script is a visit. -/
theorem resumeIn_scanFile (exhausts : Text → Option Exhaustion) (t : FileTree) (root path : Path)
    (reported : List Text) :
    (scanFile t root path).resumeIn { exhausts } reported =
      match visit exhausts t root path with
      | .ok v => (.ok v.routes, reported ++ v.messages)
      | .error fault => (.error fault, reported) := by
  unfold scanFile visit
  rw [Scan.resumeIn_bind, Scan.resumeIn_check]
  dsimp only [Option.any_none]
  rw [if_neg (by simp)]
  dsimp only
  rw [Scan.resumeIn_bind, Scan.resumeIn_ofExcept]
  cases Source.relative t root path with
  | error fault => rfl
  | ok file =>
    dsimp only
    rw [Scan.resumeIn_bind, resumeIn_readThrough]
    cases readingThrough exhausts t path with
    | error fault => rfl
    | ok read =>
      show _ = (Except.ok (Visited.routes ⟨file, routesOfFile t path file⟩),
        reported ++ Visited.messages ⟨file, routesOfFile t path file⟩)
      dsimp only
      unfold Visited.routes Visited.messages
      -- The script is reported as passed over, is silently without routes, or has some.
      rcases routesOfFile t path file with reason | ⟨_ | ⟨d, rest⟩⟩
      · rfl
      · rw [Scan.resumeIn_pure, List.append_nil]
      · rfl

/-- The scan of scripts one after the other, each of which can be visited. -/
theorem resumeIn_scanFiles {files : List Path} {visits : List Visited}
    (h : files.mapM (visit exhausts t root) = .ok visits) (reported : List Text) :
    (files.mapM (scanFile t root)).resumeIn { exhausts } reported =
      (.ok (visits.map Visited.routes), reported ++ visits.flatMap Visited.messages) := by
  induction files generalizing visits reported with
  | nil =>
    obtain rfl : [] = visits := Except.ok.inj h
    rw [List.mapM_nil, Scan.resumeIn_pure, List.flatMap_nil, List.append_nil]
    rfl
  | cons path files ih =>
    rw [List.mapM_cons] at h
    obtain ⟨v, hv, h⟩ := Except.bind_eq_ok.mp h
    obtain ⟨rest, hrest, h⟩ := Except.bind_eq_ok.mp h
    cases h
    rw [List.mapM_cons, Scan.resumeIn_bind, resumeIn_scanFile, hv]
    dsimp only
    rw [Scan.resumeIn_bind, ih hrest]
    dsimp only
    rw [Scan.resumeIn_pure, List.flatMap_cons, List.append_assoc]
    rfl

/-- Where no source exhausts the reader, every script that has a name can be visited. -/
theorem visit_eq_ok {file : Text} (h : Source.relative t root path = .ok file) :
    visit (fun _ => none) t root path = .ok ⟨file, routesOfFile t path file⟩ := by
  rw [visit, h]
  show (readingThrough _ t path >>= _) = _
  rw [readingThrough_none]
  rfl

/-- The visits of a repository with a single script, and with means enough to read it. -/
theorem visits_singleton {file : Text} (h : Source.relative t root path = .ok file) :
    [path].mapM (visit (fun _ => none) t root) = .ok [⟨file, routesOfFile t path file⟩] := by
  rw [List.mapM_cons, visit_eq_ok h]
  rfl

/-- The routes of a script are those of its text. -/
theorem routesOfFile_eq_ok {source file : Text} {routes : List Discovered}
    (hread : Source.read t path = .ok source)
    (hroutes : (routesIn source file).toOption = some routes) :
    routesOfFile t path file = .ok routes := by
  cases hresult : routesIn source file with
  | error fault =>
    rw [hresult] at hroutes
    cases hroutes
  | ok found =>
    rw [hresult] at hroutes
    obtain rfl := Option.some.inj hroutes
    rw [routesOfFile, hread]
    show Except.mapError _ (routesIn source file) = _
    rw [hresult]
    rfl

/-! ## Routes -/

/-- The scan of a repository whose scripts can all be visited, as far as the walk comes to them. -/
theorem resumeIn_discover {w : Source.Walk} {visits : List Visited}
    (hwalk : Source.walk t root scripts = .ok w)
    (hvisits : w.files.mapM (visit exhausts t root) = .ok visits) :
    (discover t root).resumeIn { exhausts } [] =
      match w.finish with
      | .ok () =>
        (.ok (contributed visits),
          Scanner.opening .routers ++ visits.flatMap Visited.messages ++ [closing visits])
      | .error fault =>
        (.error fault, Scanner.opening .routers ++ visits.flatMap Visited.messages) := by
  rw [resumeIn_discover_eq hwalk, resumeIn_scanFiles hvisits]
  cases w.finish with
  | error fault => rfl
  | ok finished =>
    dsimp only
    rw [← List.flatMap_def]
    rfl

end Routers

namespace Backend

open Routers (visit Visited contributed)

variable {t : FileTree} {root canonical : Path} {w : Source.Walk} {time : Text}
  {exhausts : Text → Option Exhaustion}

/-- What becomes of the discovery in a repository whose scripts can all be visited. -/
theorem resumeIn_discover_routers {visits : List Visited}
    (hcanonical : t.canonical root = .ok canonical)
    (hwalk : Source.walk t canonical Routers.scripts = .ok w)
    (hvisits : w.files.mapM (visit exhausts t canonical) = .ok visits) :
    (routers.discover t root time).resumeIn { exhausts } [] =
      match w.finish with
      | .ok () =>
        ((buildIndex ⟨canonical.text, routers.language, routers.framework⟩ time
            (contributed visits)).mapError .unbuilt,
          Scanner.opening .routers ++ visits.flatMap Visited.messages ++ [Routers.closing visits])
      | .error fault =>
        (.error fault, Scanner.opening .routers ++ visits.flatMap Visited.messages) := by
  have hmapped : (Except.ok canonical).mapError DiscoveryFault.looping = .ok canonical := rfl
  have hscan : (routers.scanner.scan t canonical).resumeIn { exhausts } [] = _ :=
    Routers.resumeIn_discover hwalk hvisits
  unfold discover
  rw [Scan.resumeIn_bind, Scan.resumeIn_ofExcept, hcanonical, hmapped]
  dsimp only
  rw [Scan.resumeIn_bind, hscan]
  -- The walk has broken off, or else the index is built.
  cases w.finish with
  | error fault => rfl
  | ok finished =>
    dsimp only
    rw [Scan.resumeIn_ofExcept]

end Backend

end RouteAtlas
