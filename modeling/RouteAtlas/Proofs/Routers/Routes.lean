import Mathlib.Algebra.GroupWithZero.Nat
import RouteAtlas.Proofs.Except
import RouteAtlas.Proofs.Routers.Router
import RouteAtlas.Proofs.Script.Functions
import RouteAtlas.Proofs.Sorting
import RouteAtlas.Routers.Routes

/-!
# All routes of a script

A script in a file has one controller for each of its routers and the endpoints of all its functions
(`routes_of_script`). How many endpoints a function has is the sum of what each call applied to it
declares (`declaredCount`).

Endpoints carry the line of their function and no more of its place, but functions of a script are
on different lines (`pairwise_firstLine_of_read`). So an endpoint belongs to one function only, and
it does not matter in which order the functions are visited before the endpoints are sorted
(`byLine_endpoints_of_perm`).

What is said of the routes of one script is collected in `AreRoutesOf`: which routers there are, in
what order controllers and endpoints come, and for each function in whatever block just its
endpoints in their order. The name of the module is needed for the routes only if there are any, and
a file that has no name is refused then.
-/

namespace RouteAtlas.Routers

open Script

variable {routers : List Router} {file moduleName : Text} {functions : List FunctionHead}
  {f : FunctionHead}

/-! ## What a call declares -/

/-- The item of a list of methods names a method. -/
def namesMethod (e : Expr) : Bool := ((e.text?.bind CodeText.toText?).bind methodNamed?).isSome

/-- How many methods a call lists; one if it has no list. -/
def listedCount (keywords : List (Option Text × Expr)) : Nat :=
  match keyword? keywords "methods".toList with
  | some (.display _ items) => items.countP namesMethod
  | _ => 1

/-- How many routes an expression declares: one for a call of a router's member that is named for a
method, and for a call of a general one as many as it lists methods. -/
def declaredCount (routers : List Router) : Expr → Nat
  | .call (.member (.name owner) field) _ keywords =>
    if routers.any (·.name = owner) then
      if (methodNamed? field).isSome then 1
      else if generalMembers.contains (Text.lower field) then listedCount keywords
      else 0
    else 0
  | _ => 0

/-- Of the items of a list, those count that name a method. -/
theorem length_listedMethods (keywords : List (Option Text × Expr)) :
    (listedMethods keywords).length = listedCount keywords := by
  unfold listedMethods
  split
  next items hlist =>
    rw [listedCount, hlist]
    exact List.length_filterMap_eq_countP
  next hother =>
    rw [listedCount]
    split
    next brackets items hlist => exact absurd hlist (hother brackets items)
    next => rfl

/-- A call declares one endpoint for the method it is named for, or one for each method in its list.
-/
theorem length_declaredMethods (field : Text) (keywords : List (Option Text × Expr)) :
    (declaredMethods field keywords).length =
      if (methodNamed? field).isSome then 1
      else if generalMembers.contains (Text.lower field) then listedCount keywords
      else 0 := by
  unfold declaredMethods
  cases methodNamed? field with
  | some method => rfl
  | none =>
    rw [Option.isSome_none, if_neg Bool.false_ne_true, apply_ite List.length,
      length_listedMethods]
    rfl

/-- What is applied to a function declares that many, if it belongs to a router. -/
theorem length_declaredBy (routers : List Router) (e : Expr) :
    (declaredBy routers e).length = declaredCount routers e := by
  unfold declaredBy
  split
  next owner field positional keywords =>
    rw [declaredCount]
    split
    next router hrouter =>
      have hname : router.name = owner := by simpa using List.find?_some hrouter
      have hany : routers.any (·.name = owner) = true :=
        List.any_eq_true.mpr ⟨router, List.mem_of_find?_eq_some hrouter, decide_eq_true hname⟩
      rw [List.length_map, length_declaredMethods]
      exact (if_pos hany).symm
    next hnone =>
      have hany : ¬routers.any (·.name = owner) = true := by simpa using hnone
      exact (if_neg hany).symm
  next hother =>
    rw [declaredCount]
    · rfl
    · exact hother

/-- What is declared is declared by a call of a member of one of the routers. -/
theorem exists_of_mem_declaredBy {e : Expr} {d : Declared} (h : d ∈ declaredBy routers e) :
    d.router ∈ routers ∧ ∃ field positional keywords,
      e = .call (.member (.name d.router.name) field) positional keywords ∧
        d.template = template positional keywords ∧ d.method ∈ declaredMethods field keywords := by
  unfold declaredBy at h
  split at h
  next owner field positional keywords =>
    split at h
    next router hrouter =>
      obtain ⟨method, hmethod, rfl⟩ := List.mem_map.mp h
      have hname : router.name = owner := by simpa using List.find?_some hrouter
      refine ⟨List.mem_of_find?_eq_some hrouter, field, positional, keywords, ?_, rfl, hmethod⟩
      rw [hname]
    next => cases h
  next => cases h

/-- The endpoint of a function for a call, applied to the function, of a member of a router. -/
structure IsEndpointOf (e : Discovered) (f : FunctionHead) (routers : List Router)
    (file moduleName : Text) : Prop where
  kind : e.kind = .endpoint
  file : e.file = file
  line : e.line = f.firstLine + 1
  action : e.action = some f.name.text
  declared : ∃ applied ∈ f.decorators, ∃ r ∈ routers, ∃ field positional keywords,
    applied.expr = .call (.member (.name r.name) field) positional keywords ∧
      e.controller = r.fullName moduleName ∧
      e.path = underRouter r.base (template positional keywords) ∧
      ∃ method ∈ declaredMethods field keywords, e.method = some method

/-- An endpoint of a function has all that is asked of one. -/
theorem isEndpointOf_of_mem {e : Discovered} (h : e ∈ endpointsOf routers file moduleName f) :
    IsEndpointOf e f routers file moduleName := by
  unfold endpointsOf at h
  obtain ⟨d, hd, rfl⟩ := List.mem_map.mp h
  obtain ⟨applied, happlied, hd⟩ := List.mem_flatMap.mp hd
  obtain ⟨hrouter, field, positional, keywords, hexpr, htemplate, hmethod⟩ :=
    exists_of_mem_declaredBy hd
  refine ⟨rfl, rfl, rfl, rfl, applied, happlied, d.router, hrouter, field, positional, keywords,
    hexpr, rfl, ?_, d.method, hmethod, rfl⟩
  rw [← htemplate]
  rfl

theorem length_endpointsOf (routers : List Router) (file moduleName : Text) (f : FunctionHead) :
    (endpointsOf routers file moduleName f).length =
      (f.decorators.map fun applied => declaredCount routers applied.expr).sum := by
  unfold endpointsOf
  simp only [List.length_map, List.length_flatMap, length_declaredBy]

/-! ## Sorting by lines -/

theorem sortsBy_line : SortsBy (fun a b : Discovered => decide (a.line ≤ b.line)) (·.line) :=
  fun _ _ => decide_eq_true_iff

theorem pairwise_line_byLine (routes : List Discovered) :
    (byLine routes).Pairwise (·.line ≤ ·.line) :=
  (List.pairwise_mergeSort sortsBy_line.trans sortsBy_line.total routes).imp fun h =>
    (sortsBy_line _ _).mp h

/-- Routes of one line stay as they are. -/
theorem filter_line_byLine (routes : List Discovered) (line : Int) :
    (byLine routes).filter (·.line = line) = routes.filter (·.line = line) := by
  unfold byLine
  rw [sortsBy_line.filter_mergeSort]
  refine List.mergeSort_of_pairwise (List.pairwise_of_forall_mem_list fun a ha b hb => ?_)
  have ha : a.line = line := by simpa using (List.mem_filter.mp ha).2
  have hb : b.line = line := by simpa using (List.mem_filter.mp hb).2
  exact (sortsBy_line a b).mpr (ha.trans hb.symm).le

/-- An endpoint is on the first line of its function. -/
theorem line_of_mem_endpointsOf {e : Discovered} (h : e ∈ endpointsOf routers file moduleName f) :
    e.line = f.firstLine + 1 :=
  (isEndpointOf_of_mem h).line

/-- Without a function on the line there are no endpoints on it. -/
theorem filter_line_endpoints_of_none {line : Int}
    (h : ∀ f ∈ functions, (f.firstLine : Int) + 1 ≠ line) :
    (functions.flatMap (endpointsOf routers file moduleName)).filter (·.line = line) = [] := by
  refine List.filter_eq_nil_iff.mpr fun e he => ?_
  obtain ⟨f, hf, he⟩ := List.mem_flatMap.mp he
  rw [decide_eq_true_iff, line_of_mem_endpointsOf he]
  exact h f hf

/-- The endpoints on the line of a function are its own, if no other function is on the line. -/
theorem filter_line_endpoints (hapart : functions.Pairwise (·.firstLine ≠ ·.firstLine))
    (hf : f ∈ functions) :
    (functions.flatMap (endpointsOf routers file moduleName)).filter
        (·.line = (f.firstLine : Int) + 1) =
      endpointsOf routers file moduleName f := by
  induction functions with
  | nil => cases hf
  | cons g functions ih =>
    obtain ⟨hg, hrest⟩ := List.pairwise_cons.mp hapart
    rw [List.flatMap_cons, List.filter_append]
    rcases List.mem_cons.mp hf with rfl | hmem
    · have hown : (endpointsOf routers file moduleName f).filter
          (·.line = (f.firstLine : Int) + 1) = endpointsOf routers file moduleName f :=
        List.filter_eq_self.mpr fun e he => decide_eq_true (line_of_mem_endpointsOf he)
      -- No other function is on the line, so nothing is added.
      rw [hown, filter_line_endpoints_of_none, List.append_nil]
      intro other hother hline
      have hne := hg other hother
      omega
    · have hnone : (endpointsOf routers file moduleName g).filter
          (·.line = (f.firstLine : Int) + 1) = [] := by
        refine List.filter_eq_nil_iff.mpr fun e he => ?_
        have hne := hg f hmem
        rw [decide_eq_true_iff, line_of_mem_endpointsOf he]
        omega
      rw [hnone, List.nil_append, ih hrest hmem]

/-- **The order in which functions are visited does not matter.** The endpoints of a script are the
same for any arrangement of its functions, whether outer blocks come first or not. -/
theorem byLine_endpoints_of_perm {source : Text} {script : List Statement}
    (h : Script.read source = .ok script) (hperm : functions.Perm (functionsIn script)) :
    byLine (functions.flatMap (endpointsOf routers file moduleName)) =
      byLine ((functionsIn script).flatMap (endpointsOf routers file moduleName)) := by
  have hapart : (functionsIn script).Pairwise (·.firstLine ≠ ·.firstLine) :=
    (pairwise_firstLine_of_read h).imp Nat.ne_of_lt
  refine eq_of_filter_key_eq (pairwise_line_byLine _) (pairwise_line_byLine _) fun line => ?_
  -- on one line there are the endpoints of one function at most, wherever it is visited
  rw [filter_line_byLine, filter_line_byLine]
  by_cases hline : ∃ f ∈ functions, (f.firstLine : Int) + 1 = line
  · obtain ⟨f, hf, rfl⟩ := hline
    rw [filter_line_endpoints (hperm.symm.pairwise hapart fun hne => Ne.symm hne) hf,
      filter_line_endpoints hapart (hperm.mem_iff.mp hf)]
  · have hnone : ∀ f ∈ functions, (f.firstLine : Int) + 1 ≠ line := by simpa using hline
    rw [filter_line_endpoints_of_none hnone,
      filter_line_endpoints_of_none fun f hf => hnone f (hperm.mem_iff.mpr hf)]

/-! ## All routes -/

theorem exists_moduleName (h : (Path.ofText file).names ≠ []) :
    ∃ name, Routers.moduleName file = .ok name := by
  obtain ⟨last, hlast⟩ := Option.ne_none_iff_exists'.mp (mt List.getLast?_eq_none_iff.mp h)
  unfold Routers.moduleName Path.withoutSuffix
  rw [hlast]
  exact ⟨_, rfl⟩

theorem moduleName_of_nameless (h : (Path.ofText file).names = []) :
    Routers.moduleName file = .error ⟨Path.ofText file⟩ := by
  unfold Routers.moduleName Path.withoutSuffix
  rw [h]
  rfl

/-- The routes of a script in the file of a module: the controllers of the routers that its
variables hold, and the endpoints of its functions. -/
structure AreRoutesOf (script : List Statement) (file moduleName : Text) (routers : List Router)
    (controllers endpoints : List Discovered) : Prop where
  held (r : Router) : r ∈ routers ↔ r.IsHeldAfter script
  /-- Each variable that is ever assigned a router has one. -/
  named (id : Text) : id ∈ routers.map (·.name) ↔
    ∃ s ∈ script, ∃ r : Router, r.IsAssignedBy s ∧ r.name = id
  distinct : (routers.map (·.name)).Nodup
  controllers_perm : controllers.Perm (routers.map (·.route file moduleName))
  controllers_ascend : controllers.Pairwise (·.line ≤ ·.line)
  endpoints_ascend : endpoints.Pairwise (·.line ≤ ·.line)
  /-- Each endpoint is one of a function of the script. -/
  owned : ∀ e ∈ endpoints, ∃ f : FunctionHead, f.IsIn script ∧
    IsEndpointOf e f routers file moduleName
  headed : ∀ e ∈ endpoints, ∃ c ∈ controllers, c.controller = e.controller
  /-- No two functions have their endpoints on one line. -/
  apart (f g : FunctionHead) : f.IsIn script → g.IsIn script → f.firstLine = g.firstLine → f = g
  /-- The endpoints of a function are what is declared by what is applied to it, in that order. -/
  listed (f : FunctionHead) : f.IsIn script →
    endpoints.filter (·.line = (f.firstLine : Int) + 1) = endpointsOf routers file moduleName f
  count (f : FunctionHead) : f.IsIn script →
    (endpoints.filter (·.line = (f.firstLine : Int) + 1)).length =
      (f.decorators.map fun applied => declaredCount routers applied.expr).sum

/-- **The routes are those of the script**, controllers first. What was read of the text is that
functions are on lines of their own. -/
theorem areRoutesOf_routesOf {source : Text} {script : List Statement}
    (h : Script.read source = .ok script) (file moduleName : Text) :
    ∃ controllers endpoints, routesOf script file moduleName = controllers ++ endpoints ∧
      AreRoutesOf script file moduleName (routersIn script) controllers endpoints := by
  have hapart : (functionsIn script).Pairwise (·.firstLine ≠ ·.firstLine) :=
    (pairwise_firstLine_of_read h).imp Nat.ne_of_lt
  -- Sorting leaves the endpoints of one line in their order.
  have hlisted : ∀ f : FunctionHead, f.IsIn script →
      (byLine ((functionsIn script).flatMap
        (endpointsOf (routersIn script) file moduleName))).filter
          (·.line = (f.firstLine : Int) + 1) =
        endpointsOf (routersIn script) file moduleName f := by
    intro f hf
    rw [filter_line_byLine]
    exact filter_line_endpoints hapart (isIn_iff_mem_functionsIn.mp hf)
  have howned : ∀ e ∈ byLine ((functionsIn script).flatMap
      (endpointsOf (routersIn script) file moduleName)), ∃ f : FunctionHead, f.IsIn script ∧
        IsEndpointOf e f (routersIn script) file moduleName := by
    intro e he
    obtain ⟨f, hf, he⟩ := List.mem_flatMap.mp (List.mem_mergeSort.mp he)
    exact ⟨f, isIn_iff_mem_functionsIn.mpr hf, isEndpointOf_of_mem he⟩
  refine ⟨_, _, rfl, ?_⟩
  exact
    { held := fun r => mem_routersIn_iff
      named := fun id => by
        rw [← exists_isHeldAfter_iff, List.mem_map]
        simp only [mem_routersIn_iff]
      distinct := nodup_name_routersIn script
      controllers_perm := List.mergeSort_perm _ _
      controllers_ascend := pairwise_line_byLine _
      endpoints_ascend := pairwise_line_byLine _
      owned := howned
      headed := by
        intro e he
        obtain ⟨f, -, hf⟩ := howned e he
        obtain ⟨applied, -, r, hr, field, positional, keywords, -, hcontroller, -⟩ := hf.declared
        refine ⟨r.route file moduleName, List.mem_mergeSort.mpr (List.mem_map_of_mem hr), ?_⟩
        exact hcontroller.symm
      apart := fun f g hf hg hline =>
        List.inj_on_of_nodup_map (List.pairwise_map.mpr hapart)
          (isIn_iff_mem_functionsIn.mp hf) (isIn_iff_mem_functionsIn.mp hg) hline
      listed := hlisted
      count := by
        intro f hf
        rw [hlisted f hf, length_endpointsOf] }

/-- Without routers there are no routes. -/
theorem routesOf_of_no_routers {script : List Statement} (h : routersIn script = []) :
    routesOf script file moduleName = [] := by
  refine List.eq_nil_iff_forall_not_mem.mpr fun d hd => ?_
  unfold routesOf byLine at hd
  simp only [h, List.mem_append, List.mem_mergeSort, List.map_nil, List.not_mem_nil, false_or,
    List.mem_flatMap] at hd
  obtain ⟨f, -, hd⟩ := hd
  obtain ⟨applied, -, r, hr, -⟩ := (isEndpointOf_of_mem hd).declared
  exact absurd hr List.not_mem_nil

/-- **All routes of a script.** A script has the controllers of its routers and the endpoints of its
functions, unless it has routers in a file without a name. -/
theorem routes_of_script {source : Text} {script : List Statement}
    (h : Script.read source = .ok script) (file : Text) :
    (∃ moduleName routers controllers endpoints,
      routesIn source file = .ok (controllers ++ endpoints) ∧
        AreRoutesOf script file moduleName routers controllers endpoints ∧
        (routers = [] ∨ Routers.moduleName file = .ok moduleName)) ∨
      (Path.ofText file).names = [] ∧ (∃ r : Router, r.IsHeldAfter script) ∧
        routesIn source file = .error (.nameless ⟨Path.ofText file⟩) := by
  unfold routesIn
  simp only [h]
  by_cases hnone : routersIn script = []
  · -- Without routers nothing is asked of the file.
    obtain ⟨controllers, endpoints, hroutes, hall⟩ := areRoutesOf_routesOf h file []
    rw [routesOf_of_no_routers hnone] at hroutes
    refine .inl ⟨_, _, controllers, endpoints, ?_, hall, .inl hnone⟩
    rw [← hroutes, hnone]
    rfl
  · have hsome : ¬(routersIn script).isEmpty = true := mt List.isEmpty_iff.mp hnone
    rw [if_neg hsome]
    by_cases hnames : (Path.ofText file).names = []
    · obtain ⟨r, hr⟩ := List.exists_mem_of_ne_nil _ hnone
      rw [moduleName_of_nameless hnames]
      exact .inr ⟨hnames, ⟨r, mem_routersIn_iff.mp hr⟩, rfl⟩
    · obtain ⟨name, hname⟩ := exists_moduleName hnames
      obtain ⟨controllers, endpoints, hroutes, hall⟩ := areRoutesOf_routesOf h file name
      refine .inl ⟨name, _, controllers, endpoints, ?_, hall, .inr hname⟩
      rw [hname, ← hroutes]
      rfl

/-- A script with two names for one router, and with a function inside of another. -/
def nestedScript : Text :=
  ("a = b = Flask()\n" ++
    "@a.get('/')\n" ++
    "@b.route('/', methods=['GET', 'ANY', 'PUT'])\n" ++
    "def f():\n" ++
    "  @a.put('/')\n" ++
    "  def g(): 1\n").toList

/-- The script has routes, for its file has a name: three for the outer function and one for the
inner one. -/
theorem routes_of_script_nested : ∃ script moduleName routers controllers endpoints,
    Script.read nestedScript = .ok script ∧
      routesIn nestedScript "f.py".toList = .ok (controllers ++ endpoints) ∧
      AreRoutesOf script "f.py".toList moduleName routers controllers endpoints ∧
      ((functionsIn script).map fun f => (f.firstLine, f.decorators.map fun applied =>
        declaredCount (routersIn script) applied.expr)) = [(1, [1, 2]), (4, [1])] := by
  obtain ⟨script, h, hcounts⟩ := Except.exists_eq_ok_of_any (x := Script.read nestedScript)
    (p := fun script => ((functionsIn script).map fun f =>
      (f.firstLine, f.decorators.map fun applied =>
        declaredCount (routersIn script) applied.expr)) == [(1, [1, 2]), (4, [1])])
    (by
      unfold nestedScript
      simp only [String.toList_append]
      -- The characters of a string are slow to evaluate, so they are written out.
      repeat rw [String.toList_ofList]
      decide +kernel)
  have hnamed : (Path.ofText "f.py".toList).names ≠ [] := by decide
  rcases routes_of_script h "f.py".toList with hroutes | ⟨hnone, -⟩
  · obtain ⟨moduleName, routers, controllers, endpoints, hroutes, hall, -⟩ := hroutes
    exact ⟨script, moduleName, routers, controllers, endpoints, h, hroutes, hall,
      eq_of_beq hcounts⟩
  · exact absurd hnone hnamed

end RouteAtlas.Routers
