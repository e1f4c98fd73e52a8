import RouteAtlas.Proofs.Discovery.Skipped
import RouteAtlas.Proofs.Index.Identifiers
import RouteAtlas.Proofs.Route.Join
import RouteAtlas.Proofs.Routers.Routes

/-!
# Endpoints and their controllers

In every index that is discovered, an endpoint stands behind the controller that it belongs to: one
of the same name, declared in the same file. Its path starts with a slash, and so does that of a
controller unless it is empty (`Backend.isIntegral_of_discover`).

The invariant is carried by lists of routes (`AreIntegral`). Both scans put controllers in front of
endpoints, one project by project and the other over all scripts at once; that each endpoint has its
controller among them is known of the classes and the scripts that the routes come from
(`areIntegral_append`). Lists that are integral make an integral list one behind the other
(`AreIntegral.append`), so the order of the projects does not matter. What is known of a route is
known of the record that is made of it, since the record differs from it only in its identifier.

Nothing here asks how far a scan came. `Scan.Ensures` speaks of whatever a scan results in, if it
results in anything, cancelled or not.

A scan of a project may be skipped, and a source that fails contributes nothing, so a controller may
be lost with its endpoints but never without them: the two are made of one class or of one router,
and what is skipped is skipped as a whole.
-/

namespace RouteAtlas

/-! ## What scans ensure -/

namespace Scan

variable {α β : Type} {scan : Scan α} {next : α → Scan β} {P : α → Prop} {Q : β → Prop}

/-- Whatever a scan results in, cancelled or not, is as `P` has it. -/
def Ensures (scan : Scan α) (P : α → Prop) : Prop :=
  ∀ cancelAfter reported a messages,
    scan.resume cancelAfter reported = (.ok a, messages) → P a

namespace Ensures

theorem pure {a : α} (h : P a) : Ensures (Pure.pure a : Scan α) P := by
  intro cancelAfter reported b messages hrun
  rw [resume_pure] at hrun
  cases hrun
  exact h

/-- A result that was known before is looked at only if there is one. -/
theorem ofExcept {result : Except DiscoveryFault α} (h : ∀ a, result = .ok a → P a) :
    Ensures (ofExcept result) P := by
  intro cancelAfter reported a messages hrun
  rw [resume_ofExcept] at hrun
  exact h a (congrArg Prod.fst hrun)

/-- What the first of two scans ensures is there for the second one. -/
theorem bind (hscan : Ensures scan P) (hnext : ∀ a, P a → Ensures (next a) Q) :
    Ensures (scan >>= next) Q := by
  intro cancelAfter reported b messages hrun
  rw [resume_bind] at hrun
  split at hrun
  next a middle hfirst =>
    have ha : P a := hscan cancelAfter reported a middle hfirst
    exact hnext a ha cancelAfter middle b messages hrun
  next => cases hrun

/-- Nothing needs to be known of the first of two scans. -/
theorem behind (hnext : ∀ a, Ensures (next a) Q) : Ensures (scan >>= next) Q := by
  have hscan : Ensures scan fun _ => True := fun _ _ _ _ _ => True.intro
  exact hscan.bind fun a _ => hnext a

/-- A scan of a part may fail; of its result, if there is one, the same holds. -/
theorem attempt (h : Ensures scan P) :
    Ensures scan.attempt fun result => ∀ a, result = .ok a → P a := by
  intro cancelAfter reported result messages hrun
  rw [resume_attempt] at hrun
  split at hrun
  next a _ hscan =>
    cases hrun
    intro b hb
    cases hb
    exact h cancelAfter reported a _ hscan
  next =>
    intro b hb
    rw [hb] at hrun
    split at hrun
    · cases hrun
    · cases hrun

/-- What every one of some scans ensures holds of all their results. -/
theorem mapM {items : List β} {step : β → Scan α} (h : ∀ item, Ensures (step item) P) :
    Ensures (items.mapM step) fun results => ∀ a ∈ results, P a := by
  induction items with
  | nil => exact pure fun a ha => by cases ha
  | cons item items ih =>
    rw [List.mapM_cons]
    refine bind (h item) fun first hfirst => bind ih fun rest hrest => pure ?_
    exact List.forall_mem_cons.mpr ⟨hfirst, hrest⟩

/-- Work on source files ensures of all its results what it does of each. -/
theorem forEach {t : FileTree} {root : Path} {wanted : Source.Wanted} {work : Path → Scan α}
    (h : ∀ file, Ensures (work file) P) :
    Ensures (Source.forEach t root wanted work) fun results => ∀ a ∈ results, P a :=
  .behind fun _ => .bind (.mapM h) fun _ hfound => .behind fun _ => .pure hfound

end Ensures

end Scan

/-! ## Paths -/

/-- A path starts with a slash in code points if it does in characters. -/
theorem startsWithSlash_ofText (path : Text) :
    startsWithSlash (CodeText.ofText path) = startsWithSlash path := by
  cases path with
  | nil => rfl
  | cons c rest =>
    show isSlash (CodePoint.char c) = isSlash c
    unfold isSlash
    rw [Bool.eq_iff_iff, beq_iff_eq, beq_iff_eq]
    exact CodePoint.char.injEq c '/' ▸ Iff.rfl

/-! ## Routes -/

namespace Discovered

/-- A controller heads the endpoints of its name in its file. -/
structure Heads (c e : Discovered) : Prop where
  kind : c.kind = .controller
  file : c.file = e.file
  controller : c.controller = e.controller

/-- The path starts with a slash, or it is empty and that of a controller. -/
def HasRootedPath (d : Discovered) : Prop :=
  startsWithSlash d.path = true ∨ d.kind = .controller ∧ d.path = []

end Discovered

/-- Every endpoint stands behind a controller that heads it, and all paths are rooted. -/
structure AreIntegral (routes : List Discovered) : Prop where
  headed : ∀ before e after, routes = before ++ e :: after → e.kind = .endpoint →
    ∃ c ∈ before, c.Heads e
  rooted : ∀ d ∈ routes, d.HasRootedPath

variable {first last routes : List Discovered}

/-- Without routes there is nothing to be shown. -/
theorem areIntegral_nil : AreIntegral [] where
  headed before e after h := by simp at h
  rooted d hd := by cases hd

/-- What stands in one of two lists stands in front of the other one or behind it. -/
theorem append_eq_append_cons {α : Type} {first last before after : List α} {e : α}
    (h : first ++ last = before ++ e :: after) :
    (∃ between, first = before ++ e :: between) ∨
      ∃ between, before = first ++ between ∧ last = between ++ e :: after := by
  rcases List.append_eq_append_iff.mp h with ⟨between, hbefore, hlast⟩ | ⟨between, hfirst, hafter⟩
  · exact .inr ⟨between, hbefore, hlast⟩
  · cases between with
    | nil =>
      rw [List.append_nil] at hfirst
      exact .inr ⟨[], by rw [hfirst, List.append_nil], hafter.symm⟩
    | cons x between =>
      rw [List.cons_append, List.cons.injEq] at hafter
      exact .inl ⟨between, by rw [hfirst, hafter.1]⟩

/-- Integral lists make an integral list one behind the other. -/
theorem AreIntegral.append (hfirst : AreIntegral first) (hlast : AreIntegral last) :
    AreIntegral (first ++ last) where
  headed before e after h hkind := by
    rcases append_eq_append_cons h with ⟨between, hsplit⟩ | ⟨between, hbefore, hsplit⟩
    · exact hfirst.headed before e between hsplit hkind
    · obtain ⟨c, hc, hheads⟩ := hlast.headed between e after hsplit hkind
      exact ⟨c, hbefore ▸ List.mem_append_right first hc, hheads⟩
  rooted := List.forall_mem_append.mpr ⟨hfirst.rooted, hlast.rooted⟩

theorem areIntegral_flatten {groups : List (List Discovered)}
    (h : ∀ group ∈ groups, AreIntegral group) :
    AreIntegral groups.flatten := by
  induction groups with
  | nil => exact areIntegral_nil
  | cons group groups ih =>
    rw [List.forall_mem_cons] at h
    exact h.1.append (ih h.2)

/-- Controllers make an integral list with the endpoints that they head. -/
theorem areIntegral_append (hfirst : ∀ c ∈ first, c.kind = .controller)
    (hlast : ∀ e ∈ last, ∃ c ∈ first, c.Heads e) (hrooted : ∀ d ∈ first ++ last, d.HasRootedPath) :
    AreIntegral (first ++ last) where
  headed before e after h hkind := by
    rcases append_eq_append_cons h with ⟨between, hsplit⟩ | ⟨between, hbefore, hsplit⟩
    · have hmem : e ∈ first := hsplit ▸ List.mem_append_right before List.mem_cons_self
      rw [hfirst e hmem] at hkind
      cases hkind
    · have hmem : e ∈ last := hsplit ▸ List.mem_append_right between List.mem_cons_self
      obtain ⟨c, hc, hheads⟩ := hlast e hmem
      exact ⟨c, hbefore ▸ List.mem_append_left between hc, hheads⟩
  rooted := hrooted

/-! ## The scan for controllers -/

namespace Controllers

open Scan (Ensures)

namespace ClassDecl

variable (c : ClassDecl) (file : Text)

theorem hasRootedPath_controllerRoute : (c.controllerRoute file).HasRootedPath := by
  have hpath : startsWithSlash c.path = true ∨ c.path = [] := by
    unfold path
    split
    · exact .inr rfl
    · exact .inr rfl
    · exact .inl (startsWithSlash_rooted _)
  rcases hpath with hslash | hempty
  · exact .inl ((startsWithSlash_ofText c.path).trans hslash)
  · exact .inr ⟨rfl, congrArg CodeText.ofText hempty⟩

/-- The endpoints of a controller are headed by its own route, and their paths are rooted. -/
theorem heads_of_mem_endpoints {e : Discovered} (he : e ∈ c.endpoints file) :
    (c.controllerRoute file).Heads e ∧ e.HasRootedPath := by
  obtain ⟨method, -, hmark⟩ := List.mem_flatMap.mp he
  obtain ⟨mark, -, hfound⟩ := List.mem_filterMap.mp hmark
  obtain ⟨httpMethod, -, rfl⟩ := Option.map_eq_some_iff.mp hfound
  refine ⟨⟨rfl, rfl, rfl⟩, .inl ?_⟩
  show startsWithSlash (CodeText.ofText (c.endpointPath method mark)) = true
  rw [startsWithSlash_ofText]
  exact startsWithSlash_underController _ _

end ClassDecl

variable (t : FileTree) (root : Path)

/-- The routes of a project: its controllers and then their endpoints. -/
theorem ensures_scanProject (projects : List Path) (project : Path) :
    Ensures (scanProject t root projects project) AreIntegral := by
  refine .behind fun _ => .behind fun classes => .behind fun _ => ?_
  -- A class makes a controller and its endpoints at once.
  have hgroup (c : ClassDecl) : Ensures (routesOfController t root c)
      fun group => ∃ c file, group = (ClassDecl.controllerRoute c file, c.endpoints file) :=
    .behind fun file => .pure ⟨c, file, rfl⟩
  refine .bind (.mapM hgroup) fun groups hgroups => .behind fun _ => .pure ?_
  refine areIntegral_append ?_ ?_ ?_
  · intro d hd
    obtain ⟨group, hmem, rfl⟩ := List.mem_map.mp hd
    obtain ⟨c, file, rfl⟩ := hgroups group hmem
    rfl
  · intro e he
    obtain ⟨group, hmem, he⟩ := List.mem_flatMap.mp he
    obtain ⟨c, file, rfl⟩ := hgroups group hmem
    exact ⟨c.controllerRoute file, List.mem_map_of_mem hmem, (c.heads_of_mem_endpoints file he).1⟩
  · intro d hd
    rcases List.mem_append.mp hd with hd | hd
    · obtain ⟨group, hmem, rfl⟩ := List.mem_map.mp hd
      obtain ⟨c, file, rfl⟩ := hgroups group hmem
      exact c.hasRootedPath_controllerRoute file
    · obtain ⟨group, hmem, hd⟩ := List.mem_flatMap.mp hd
      obtain ⟨c, file, rfl⟩ := hgroups group hmem
      exact (c.heads_of_mem_endpoints file hd).2

/-- The routes of all projects, one project after the other. -/
theorem ensures_discover : Ensures (discover t root) AreIntegral := by
  have hproject (projects : List Path) (project : Path) :
      Ensures (scanProjectOrSkip t root projects project) AreIntegral := by
    refine .behind fun _ => .behind fun name => ?_
    refine .bind (ensures_scanProject t root projects project).attempt fun result hresult => ?_
    cases result with
    | ok routes => exact .pure (hresult routes rfl)
    | error fault => exact .behind fun _ => .pure areIntegral_nil
  refine .behind fun _ => .behind fun files => ?_
  split
  · exact .behind fun _ => .pure areIntegral_nil
  · refine .bind (.mapM (hproject _)) fun groups hgroups => .behind fun _ => .pure ?_
    exact areIntegral_flatten hgroups

end Controllers

/-! ## The scan for routers -/

namespace Routers

open Scan (Ensures)

variable {file moduleName : Text}

/-- A router without a base has no path, and any other base is made to start with a slash. -/
theorem hasRootedPath_route (r : Router) : (r.route file moduleName).HasRootedPath := by
  unfold Discovered.HasRootedPath Router.route
  dsimp only
  split
  · exact .inr ⟨rfl, rfl⟩
  · exact .inl (startsWithSlash_rooted r.base)

/-- The routes of scripts: each endpoint is headed by one of them, and their paths are rooted. -/
structure AreHeaded (routes : List Discovered) : Prop where
  heads : ∀ e ∈ routes, e.kind = .endpoint → ∃ c ∈ routes, c.Heads e
  rooted : ∀ d ∈ routes, d.HasRootedPath

/-- Without routes there is nothing to be headed. -/
theorem areHeaded_nil : AreHeaded [] where
  heads e he := by cases he
  rooted d hd := by cases hd

/-- Endpoints find their router in their own list. -/
theorem areHeaded_flatten {groups : List (List Discovered)} (h : ∀ group ∈ groups, AreHeaded group) :
    AreHeaded groups.flatten where
  heads e he hkind := by
    obtain ⟨group, hgroup, hmem⟩ := List.mem_flatten.mp he
    obtain ⟨c, hc, hheads⟩ := (h group hgroup).heads e hmem hkind
    exact ⟨c, List.mem_flatten_of_mem hgroup hc, hheads⟩
  rooted d hd := by
    obtain ⟨group, hgroup, hmem⟩ := List.mem_flatten.mp hd
    exact (h group hgroup).rooted d hmem

/-- The endpoints of a script are headed by its routers. -/
theorem areHeaded_routesOf (script : List Script.Statement) (file moduleName : Text) :
    AreHeaded (routesOf script file moduleName) where
  heads e he hkind := by
    unfold routesOf byLine at he ⊢
    simp only [List.mem_append, List.mem_mergeSort, List.mem_map, List.mem_flatMap] at he ⊢
    rcases he with ⟨router, -, rfl⟩ | ⟨f, -, hmem⟩
    · cases hkind
    · unfold endpointsOf at hmem
      obtain ⟨declared, hdeclared, rfl⟩ := List.mem_map.mp hmem
      obtain ⟨applied, -, happlied⟩ := List.mem_flatMap.mp hdeclared
      obtain ⟨hrouter, -⟩ := exists_of_mem_declaredBy happlied
      exact ⟨_, .inl ⟨declared.router, hrouter, rfl⟩, rfl, rfl, rfl⟩
  rooted d hd := by
    unfold routesOf byLine at hd
    simp only [List.mem_append, List.mem_mergeSort, List.mem_map, List.mem_flatMap] at hd
    rcases hd with ⟨router, -, rfl⟩ | ⟨f, -, hmem⟩
    · exact hasRootedPath_route router
    · unfold endpointsOf at hmem
      obtain ⟨declared, -, rfl⟩ := List.mem_map.mp hmem
      exact .inl (startsWithSlash_underRouter _ _)

/-- A script declares the routers of its endpoints. -/
theorem areHeaded_of_routesOfFile {t : FileTree} {path : Path} {routes : List Discovered}
    (h : routesOfFile t path file = .ok routes) : AreHeaded routes := by
  unfold routesOfFile at h
  obtain ⟨source, -, h⟩ := Except.bind_eq_ok.mp h
  rw [Except.mapError_eq_ok] at h
  unfold routesIn at h
  split at h
  next => cases h
  next script _ =>
    split at h
    next =>
      cases h
      exact areHeaded_nil
    next =>
      split at h
      next => cases h
      next name _ =>
        cases h
        exact areHeaded_routesOf script file name

/-- The routes of all scripts: all routers, and then all endpoints. -/
theorem ensures_discover (t : FileTree) (root : Path) : Ensures (discover t root) AreIntegral := by
  have hfile (path : Path) : Ensures (scanFile t root path) AreHeaded := by
    refine .behind fun _ => .behind fun file => .behind fun _ => ?_
    split
    next => exact .behind fun _ => .pure areHeaded_nil
    next => exact .pure areHeaded_nil
    next routes _ hroutes => exact .behind fun _ => .pure (areHeaded_of_routesOfFile hroutes)
  refine .behind fun _ => .bind (.forEach hfile) fun found hfound => ?_
  have hall := areHeaded_flatten hfound
  refine .behind fun _ => .pure (areIntegral_append ?_ ?_ ?_)
  · intro c hc
    exact beq_iff_eq.mp (List.mem_filter.mp hc).2
  · intro e he
    obtain ⟨hmem, hkind⟩ := List.mem_filter.mp he
    obtain ⟨c, hc, hheads⟩ := hall.heads e hmem (beq_iff_eq.mp hkind)
    exact ⟨c, List.mem_filter.mpr ⟨hc, beq_iff_eq.mpr hheads.kind⟩, hheads⟩
  · intro d hd
    rw [List.mem_append, List.mem_filter, List.mem_filter, ← and_or_left] at hd
    exact hall.rooted d hd.1

end Routers

/-! ## Indexes -/

/-- Every endpoint of the index stands behind a controller of its name and its file. The path of an
endpoint starts with a slash, and that of a controller does unless it is empty. -/
structure Index.IsIntegral (i : Index) : Prop where
  headed : ∀ before e after, i.routes = before ++ e :: after → e.kind = .endpoint →
    ∃ c ∈ before, c.kind = .controller ∧ c.source.file = e.source.file ∧ c.controller = e.controller
  endpointPath : ∀ e ∈ i.routes, e.kind = .endpoint → ∃ rest, e.path = '/' :: rest
  controllerPath : ∀ c ∈ i.routes, c.kind = .controller → c.path = [] ∨ ∃ rest, c.path = '/' :: rest

/-- An index of integral routes is integral. -/
theorem AreIntegral.isIntegral {i : Index} (h : AreIntegral (i.routes.map Record.discovered)) :
    i.IsIntegral := by
  have hpath : ∀ r ∈ i.routes,
      (∃ rest, r.path = '/' :: rest) ∨ r.kind = .controller ∧ r.path = [] := by
    intro r hr
    rcases h.rooted r.discovered (List.mem_map_of_mem hr) with hslash | ⟨hkind, hempty⟩
    · exact .inl (exists_eq_slash_cons ((startsWithSlash_ofText r.path).symm.trans hslash))
    · exact .inr ⟨hkind, List.map_eq_nil_iff.mp hempty⟩
  refine ⟨?_, ?_, ?_⟩
  · -- What stands in front of a record is what stood in front of its route.
    intro before e after hsplit hkind
    have hmapped : i.routes.map Record.discovered =
        before.map Record.discovered ++ e.discovered :: after.map Record.discovered := by
      rw [hsplit, List.map_append, List.map_cons]
    obtain ⟨d, hd, hheads⟩ := h.headed _ _ _ hmapped hkind
    obtain ⟨c, hc, rfl⟩ := List.mem_map.mp hd
    exact ⟨c, hc, hheads.kind, hheads.file, hheads.controller⟩
  · intro e he hkind
    rcases hpath e he with hslash | ⟨hcontroller, -⟩
    · exact hslash
    · rw [hkind] at hcontroller
      cases hcontroller
  · intro c hc hkind
    rcases hpath c hc with hslash | ⟨-, hempty⟩
    · exact .inr hslash
    · exact .inl hempty

namespace Backend

open Scan (Ensures)

variable (b : Backend) (t : FileTree) (root : Path) (time : Text)

/-- Whatever a backend discovers is integral. -/
theorem ensures_discover : Ensures (b.discover t root time) Index.IsIntegral := by
  refine .behind fun root => ?_
  have hscan : Ensures (b.scanner.scan t root) AreIntegral := by
    unfold Scanner.scan
    split
    · exact Controllers.ensures_discover t root
    · exact Routers.ensures_discover t root
    · exact .pure areIntegral_nil
  refine .bind hscan fun routes hroutes => .ofExcept ?_
  intro i hbuild
  have hrecords := map_discovered_of_recordsFrom
    (recordsFrom_of_buildIndex (Except.mapError_eq_ok.mp hbuild))
  exact AreIntegral.isIntegral (hrecords ▸ hroutes)

/-- **Endpoints belong to controllers.** In every index that a backend discovers, whether or not
anything was to cancel it, each endpoint stands behind a controller of its name and its file. -/
theorem isIntegral_of_discover {cancelAfter : Option Nat} {messages : List Text} {i : Index}
    (h : (b.discover t root time).run cancelAfter = (messages, .ok i)) : i.IsIntegral := by
  have hresume : (b.discover t root time).resume cancelAfter [] = (.ok i, messages) := by
    rw [Scan.run, Prod.mk.injEq] at h
    exact Prod.ext h.2 h.1
  exact b.ensures_discover t root time cancelAfter [] i messages hresume

/-- A script with a router and an endpoint of it. -/
def petScript : Text :=
  "r = APIRouter(prefix='pets')\n@r.get('/all')\ndef pets(): pass\n".toList

/-- The routes of the script. -/
def petRoutes : List Discovered :=
  [{ kind := .controller
     path := CodeText.ofString "/pets"
     file := "a.py".toList
     line := 1
     controller := "a.r".toList },
   { kind := .endpoint
     path := CodeText.ofString "/pets/all"
     file := "a.py".toList
     line := 2
     controller := "a.r".toList
     method := some .get
     action := some "pets".toList }]

/-- A tree with the script. -/
def petTree : FileTree where
  entries := [(["a.py".toList], .file (Utf8.encode petScript) 0o644)]
  distinct := by decide

/-- There, both routes are found, and their index can be written down. -/
theorem discover_petTree :
    ∃ messages i, (routers.discover petTree ⟨.slash, []⟩ []).run none = (messages, .ok i) ∧
      i.routes.map Record.discovered = petRoutes ∧ Json.isEncodable (Encode.index i) = true := by
  have hcanonical : petTree.canonical ⟨.slash, []⟩ = .ok ⟨.slash, []⟩ := by cbv
  have hwalk : Source.walk petTree ⟨.slash, []⟩ Routers.scripts =
      .ok ⟨[⟨.slash, ["a.py".toList]⟩], none⟩ := by cbv
  have hrelative : Source.relative petTree ⟨.slash, []⟩ ⟨.slash, ["a.py".toList]⟩ =
      .ok "a.py".toList := by cbv
  have hread : Source.read petTree ⟨.slash, ["a.py".toList]⟩ = .ok petScript := by cbv
  -- The script is parsed and its routes are collected by evaluation.
  have hparsed : (Routers.routesIn petScript "a.py".toList).toOption = some petRoutes := by
    unfold petScript
    rw [String.toList_ofList]
    decide +kernel
  have hvisits := Routers.visits_singleton hrelative
  rw [Routers.routesOfFile_eq_ok hread hparsed] at hvisits
  have hcontributed : Routers.contributed [⟨"a.py".toList, .ok petRoutes⟩] = petRoutes := rfl
  have hsound : ∀ d ∈ petRoutes, d.IsSound := by
    intro d hd
    rcases List.mem_pair.mp hd with rfl | rfl
    · exact ⟨by decide, _, rfl⟩
    · exact ⟨by decide, _, rfl⟩
  have hapart : (petRoutes.map (·.identifier 0)).Nodup := by
    simp only [Discovered.identifier_eq_numbers]
    exact .of_map Except.toOption (by decide +kernel)
  obtain ⟨i, hi⟩ := exists_buildIndex_of_nodup hsound (by decide) hapart
    ⟨(⟨.slash, []⟩ : Path).text, routers.language, routers.framework⟩ []
  have hencodable : Json.isEncodable (Encode.index i) = true := by
    rw [isEncodable_of_buildIndex hi]
    decide
  have hrun : ((routers.discover petTree ⟨.slash, []⟩ []).run none).2 = .ok i := by
    rw [Scan.run, Scan.resume, resumeIn_discover_routers hcanonical hwalk hvisits, hcontributed, hi]
    rfl
  exact ⟨_, i, Prod.ext rfl hrun, map_discovered_of_recordsFrom (recordsFrom_of_buildIndex hi),
    hencodable⟩

/-- The endpoint of the script stands behind its router. -/
theorem isIntegral_of_discover_pets :
    ∃ messages i, (routers.discover petTree ⟨.slash, []⟩ []).run none = (messages, .ok i) ∧
      i.routes.map Record.discovered = petRoutes ∧ i.IsIntegral := by
  obtain ⟨messages, i, hrun, hroutes, -⟩ := discover_petTree
  exact ⟨messages, i, hrun, hroutes,
    isIntegral_of_discover routers petTree ⟨.slash, []⟩ [] hrun⟩

end Backend

end RouteAtlas
