import Mathlib.Data.List.Nodup
import Mathlib.Data.List.Perm.Subperm
import Mathlib.Data.Nat.Find
import Mathlib.Data.Nat.Init
import RouteAtlas.Index.Build
import RouteAtlas.Proofs.Document.RoundTrip
import RouteAtlas.Proofs.Except
import RouteAtlas.Proofs.Text.CodeText

/-!
# Built indexes

An index is built of discovered routes as long as each of them is sound and the text behind its
identifiers can be encoded, which is a matter of its path alone: `buildIndex_cases`. Its records are
then the routes themselves, in their order, apart from the identifiers.

One thing can come in between. Each route takes the first identifier that no earlier one has
(`Discovered.freeIdentifier_eq_ok_iff`). If all its identifiers are taken, then two of them are
equal, since there are more of them than taken ones: the digest has given two ordinals of one route
the same identifier (`Discovered.HasCollision`).

The search for an identifier has no bound, so all that is known of it comes from its equation: a
search that has something to find comes to an end (`searchIdentifier_eq_some`), and what it has
found then is free, while everything before it was taken (`exists_of_searchIdentifier`).
-/

namespace RouteAtlas

/-- The beginning of a digest has at least one digit. -/
theorem Digest.take_sha256_ne_nil (message : Bytes) :
    (Digest.sha256 message).take identifierLength ≠ [] := by
  simp [Digest.sha256, Digest.bigEndian, identifierLength, List.range_succ]

/-- A record without its identifier: the route that it was made from. -/
def Record.discovered (r : Record) : Discovered where
  kind := r.kind
  path := CodeText.ofText r.path
  file := r.source.file
  line := r.source.line
  controller := r.controller
  method := r.method?
  action := r.action?

namespace Discovered

/-- The parts of a route fit together, and it has a line. -/
structure IsSound (d : Discovered) : Prop where
  line_pos : 1 ≤ d.line
  role : ∃ role, Role.ofParts? d.kind d.method d.action = .ok role

/-- The path of a route is a text. -/
def HasTextPath (d : Discovered) : Prop := d.path.toText?.isSome = true

instance (d : Discovered) : Decidable d.HasTextPath :=
  inferInstanceAs (Decidable (_ = true))

/-- Two ordinals up to a bound give a route the same identifier. -/
def HasCollision (d : Discovered) (bound : Nat) : Prop :=
  ∃ m n id, m < n ∧ n ≤ bound ∧ d.identifier m = .ok id ∧ d.identifier n = .ok id

theorem HasCollision.mono {d : Discovered} {bound larger : Nat} (hle : bound ≤ larger)
    (h : d.HasCollision bound) : d.HasCollision larger := by
  obtain ⟨m, n, id, hlt, hbound, hm, hn⟩ := h
  exact ⟨m, n, id, hlt, Nat.le_trans hbound hle, hm, hn⟩

/-! ## Identifiers -/

/-- Of the text behind an identifier, only the path may be no text. -/
theorem isSome_toText?_identity (d : Discovered) (ordinal : Nat) :
    (d.identity ordinal).text.toText?.isSome = d.path.toText?.isSome := by
  unfold Identity.text identity
  dsimp only
  split <;> simp [CodeText.isSome_toText?_append]

theorem identifier_of_hasTextPath {d : Discovered} (h : d.HasTextPath) (ordinal : Nat) :
    ∃ id, d.identifier ordinal = .ok id ∧ id ≠ [] := by
  have hsome : (d.identity ordinal).text.toText?.isSome = true :=
    (isSome_toText?_identity d ordinal).trans h
  obtain ⟨text, htext⟩ := Option.isSome_iff_exists.mp hsome
  refine ⟨(Digest.sha256 (Utf8.encode text)).take identifierLength, ?_,
    Digest.take_sha256_ne_nil _⟩
  rw [identifier, Identity.identifier, Utf8.encodeCode, htext]
  rfl

theorem identifier_of_not_hasTextPath {d : Discovered} (h : ¬ d.HasTextPath) (ordinal : Nat) :
    ∃ fault, d.identifier ordinal = .error fault := by
  have hnone : (d.identity ordinal).text.toText? = none := by
    rw [← Option.not_isSome_iff_eq_none, isSome_toText?_identity]
    exact h
  rw [identifier, Identity.identifier, Utf8.encodeCode, hnone]
  exact ⟨_, rfl⟩

/-- The identifiers before an ordinal are all taken. -/
def AllTaken (d : Discovered) (taken : List Text) (ordinal : Nat) : Prop :=
  ∀ k < ordinal, ∃ id ∈ taken, d.identifier k = .ok id

/-- One step of the search. -/
theorem searchIdentifier_of_ok {d : Discovered} {ordinal : Nat} {id : Text}
    (h : d.identifier ordinal = .ok id) (taken : List Text) :
    searchIdentifier d taken ordinal =
      if id ∈ taken then searchIdentifier d taken (ordinal + 1) else some (.ok id) := by
  rw [searchIdentifier, h]
  simp only [List.contains_iff_mem]

/-- A search that comes to an end has found what it looks for. -/
theorem exists_of_searchIdentifier {d : Discovered} {taken : List Text} {ordinal : Nat} {id : Text}
    (h : searchIdentifier d taken ordinal = some (.ok id)) (hbefore : d.AllTaken taken ordinal) :
    ∃ k, d.AllTaken taken k ∧ d.identifier k = .ok id ∧ id ∉ taken := by
  -- The induction is on the course of the search; all that it has passed is taken.
  have hcourse : ∀ ordinal result, searchIdentifier d taken ordinal = some result →
      d.AllTaken taken ordinal → ∀ id, result = .ok id →
      ∃ k, d.AllTaken taken k ∧ d.identifier k = .ok id ∧ id ∉ taken := by
    refine searchIdentifier.partial_correctness d taken _ ?_
    intro search ih ordinal result hstep hbefore id hresult
    split at hstep
    next fault hfault =>
      rw [← Option.some.inj hstep] at hresult
      cases hresult
    next first hfirst =>
      split at hstep
      next htaken =>
        refine ih (ordinal + 1) result hstep ?_ id hresult
        intro k hk
        rcases Nat.lt_or_eq_of_le (Nat.le_of_lt_succ hk) with hlt | rfl
        · exact hbefore k hlt
        · exact ⟨first, List.contains_iff_mem.mp htaken, hfirst⟩
      next hfree =>
        obtain rfl : first = id := Except.ok.inj ((Option.some.inj hstep).trans hresult)
        exact ⟨ordinal, hbefore, hfirst, mt List.contains_iff_mem.mpr hfree⟩
  exact hcourse ordinal (.ok id) h hbefore id rfl

/-- A search that has something to find comes to an end. -/
theorem searchIdentifier_eq_some {d : Discovered} {taken : List Text} {k : Nat} {id : Text}
    (hall : d.AllTaken taken k) (hid : d.identifier k = .ok id) (hfree : id ∉ taken)
    {ordinal : Nat} (hle : ordinal ≤ k) : searchIdentifier d taken ordinal = some (.ok id) := by
  induction hle using Nat.decreasingInduction with
  | self => rw [searchIdentifier_of_ok hid, if_neg hfree]
  | of_succ ordinal hlt ih =>
    obtain ⟨passed, htaken, hpassed⟩ := hall ordinal hlt
    rw [searchIdentifier_of_ok hpassed, if_pos htaken, ih]

/-- **Which identifier a route gets**: that of the least ordinal whose identifier is not taken. -/
theorem freeIdentifier_eq_ok_iff {d : Discovered} {taken : List Text} {id : Text} :
    freeIdentifier d taken = .ok id ↔
      ∃ k, d.AllTaken taken k ∧ d.identifier k = .ok id ∧ id ∉ taken := by
  constructor
  · intro h
    unfold freeIdentifier at h
    cases hsearch : searchIdentifier d taken 0 with
    | none =>
      rw [hsearch] at h
      cases h
    | some result =>
      rw [hsearch] at h
      obtain rfl : result = .ok id := h
      exact exists_of_searchIdentifier hsearch fun k hk => absurd hk (Nat.not_lt_zero k)
  · intro h
    obtain ⟨k, hall, hid, hfree⟩ := h
    rw [freeIdentifier, searchIdentifier_eq_some hall hid hfree (Nat.zero_le k)]
    rfl

theorem freeIdentifier_of_error {d : Discovered} {fault : Utf8.EncodeFault}
    (h : d.identifier 0 = .error fault) (taken : List Text) :
    freeIdentifier d taken = .error (.unencodable fault) := by
  rw [freeIdentifier, searchIdentifier, h]
  rfl

/-- An identifier is found unless two ordinals share one: there are more of them than are taken. -/
theorem freeIdentifier_or_hasCollision {d : Discovered} (h : d.HasTextPath) (taken : List Text) :
    (∃ id, freeIdentifier d taken = .ok id ∧ id ∉ taken ∧ id ≠ []) ∨
    d.HasCollision taken.length := by
  choose tried htried using fun k => identifier_of_hasTextPath h k
  by_cases hfree : ∃ k, tried k ∉ taken
  · left
    -- Of the ordinals with a free identifier, the least one is found.
    have hall : d.AllTaken taken (Nat.find hfree) := fun k hk =>
      ⟨tried k, not_not.mp (Nat.find_min hfree hk), (htried k).1⟩
    have hfound := freeIdentifier_eq_ok_iff.mpr
      ⟨_, hall, (htried _).1, Nat.find_spec hfree⟩
    exact ⟨_, hfound, Nat.find_spec hfree, (htried _).2⟩
  right
  push Not at hfree
  -- The first identifiers are more than those that they are among.
  have hsubset : (List.range (taken.length + 1)).map tried ⊆ taken := by
    intro id hid
    obtain ⟨k, -, rfl⟩ := List.mem_map.mp hid
    exact hfree k
  have hrepeated : ¬ ((List.range (taken.length + 1)).map tried).Nodup := by
    intro hnodup
    have hle := (List.subperm_of_subset hnodup hsubset).length_le
    rw [List.length_map, List.length_range] at hle
    omega
  rw [List.nodup_map_iff_inj_on List.nodup_range] at hrepeated
  push Not at hrepeated
  obtain ⟨m, hm, n, hn, heq, hne⟩ := hrepeated
  rw [List.mem_range] at hm hn
  rcases Nat.lt_or_gt_of_ne hne with hlt | hlt
  · exact ⟨m, n, tried m, hlt, by omega, (htried m).1, heq ▸ (htried n).1⟩
  · exact ⟨n, m, tried n, hlt, by omega, (htried n).1, heq ▸ (htried m).1⟩

/-! ## Records -/

/-- Whatever record a route makes, it was made from that route. -/
theorem discovered_of_toRecord {d : Discovered} {id : Text} {r : Record} (h : d.toRecord id = .ok r) :
    r.id = id ∧ r.discovered = d := by
  obtain ⟨kind, path, file, line, controller, method, action⟩ := d
  unfold toRecord at h
  split at h
  next => cases h
  next hline =>
    have hpos : 1 ≤ line := Int.not_lt.mp hline
    split at h
    next => cases h
    next role hrole =>
      split at h
      next => cases h
      next hid =>
        split at h
        next => cases h
        next text htext =>
          cases h
          -- The kind, the method and the action are those of the role that they make.
          obtain ⟨hkind, hmethod, haction⟩ := (Role.ofParts?_eq_ok_iff
            (r := ⟨id, text, ⟨file, line.toNat, by omega⟩, controller, role, hid⟩)).mp hrole
          have hpath : path = CodeText.ofText text := CodeText.toText?_eq_some_iff.mp htext
          have hnat : (line.toNat : Int) = line := Int.toNat_of_nonneg (by omega)
          refine ⟨rfl, ?_⟩
          rw [Record.discovered, mk.injEq]
          exact ⟨hkind.symm, hpath.symm, rfl, hnat, rfl, hmethod.symm, haction.symm⟩

/-- A sound route makes a record under any identifier. -/
theorem toRecord_of_isSound {d : Discovered} {id : Text} (hsound : d.IsSound) (h : d.HasTextPath)
    (hid : id ≠ []) : ∃ r, d.toRecord id = .ok r ∧ r.id = id ∧ r.discovered = d := by
  obtain ⟨text, htext⟩ := Option.isSome_iff_exists.mp h
  obtain ⟨hline, role, hrole⟩ := hsound
  have hmade : d.toRecord id = .ok ⟨id, text, ⟨d.file, d.line.toNat, by omega⟩, d.controller, role,
      hid⟩ := by
    rw [toRecord, dif_neg (by omega)]
    simp only [hrole, dif_neg hid, htext]
  exact ⟨_, hmade, discovered_of_toRecord hmade⟩

end Discovered

/-- What becomes of routes, after others whose identifiers are taken. -/
theorem recordsFrom_cases {routes : List Discovered} (hsound : ∀ d ∈ routes, d.IsSound)
    (taken : List Text) :
    (∃ records, recordsFrom taken routes = .ok records ∧
      (∀ d ∈ routes, d.HasTextPath) ∧ records.map Record.discovered = routes ∧
      (records.map Record.id).Nodup ∧ ∀ id ∈ records.map Record.id, id ∉ taken) ∨
    (∃ fault, recordsFrom taken routes = .error (.unencodable fault) ∧
      ∃ d ∈ routes, ¬ d.HasTextPath) ∨
    ∃ d ∈ routes, d.HasCollision (taken.length + routes.length) := by
  induction routes generalizing taken with
  | nil => exact .inl ⟨[], rfl, by simp⟩
  | cons d rest ih =>
    rw [List.forall_mem_cons] at hsound
    by_cases htext : d.HasTextPath
    · rcases d.freeIdentifier_or_hasCollision htext taken with ⟨id, hid, hfree, hne⟩ | hcollision
      · obtain ⟨r, hr, rfl, hroute⟩ := Discovered.toRecord_of_isSound hsound.1 htext hne
        rw [recordsFrom, hid]
        simp only [bind, Except.bind, hr, Except.mapError]
        rcases ih hsound.2 (r.id :: taken) with
          ⟨records, hrecords, hall, hroutes, hnodup, hnew⟩ | ⟨fault, hfault, e, he, hnot⟩ |
          ⟨e, he, hcollision⟩
        · left
          refine ⟨r :: records, by rw [hrecords]; rfl, List.forall_mem_cons.mpr ⟨htext, hall⟩,
            by rw [List.map_cons, hroute, hroutes], ?_, ?_⟩
          · rw [List.map_cons, List.nodup_cons]
            exact ⟨fun hmem => hnew _ hmem List.mem_cons_self, hnodup⟩
          · rw [List.map_cons, List.forall_mem_cons]
            exact ⟨hfree, fun id hmem htaken => hnew id hmem (List.mem_cons_of_mem _ htaken)⟩
        · right; left
          exact ⟨fault, by rw [hfault], e, List.mem_cons_of_mem _ he, hnot⟩
        · right; right
          refine ⟨e, List.mem_cons_of_mem _ he, hcollision.mono ?_⟩
          simp only [List.length_cons]
          omega
      · right; right
        exact ⟨d, List.mem_cons_self, hcollision.mono (Nat.le_add_right _ _)⟩
    · right; left
      obtain ⟨fault, hfault⟩ := Discovered.identifier_of_not_hasTextPath htext 0
      refine ⟨fault, ?_, d, List.mem_cons_self, htext⟩
      rw [recordsFrom, Discovered.freeIdentifier_of_error hfault]
      rfl

/-- The records of a built index are those of its routes. -/
theorem recordsFrom_of_buildIndex {project : Project} {time : Text} {routes : List Discovered}
    {i : Index} (h : buildIndex project time routes = .ok i) :
    recordsFrom [] routes = .ok i.routes := by
  rw [buildIndex] at h
  obtain ⟨records, hrecords, h⟩ := Except.bind_eq_ok.mp h
  unfold Index.ofParts? at h
  split at h
  next index hparts =>
    cases h
    split at hparts
    · cases hparts
    · cases hparts
      exact hrecords
  next => cases h

/-- Records with identifiers of their own make an index. -/
theorem buildIndex_of_recordsFrom {routes : List Discovered} {records : List Record}
    (h : recordsFrom [] routes = .ok records) (hnodup : (records.map Record.id).Nodup)
    (project : Project) (time : Text) :
    buildIndex project time routes = .ok ⟨schemaVersion, time, project, records, hnodup⟩ := by
  have hparts : Index.ofParts? schemaVersion time project records =
      .ok ⟨schemaVersion, time, project, records, hnodup⟩ :=
    Index.ofParts?_self ⟨schemaVersion, time, project, records, hnodup⟩
  rw [buildIndex, h]
  simp only [bind, Except.bind, hparts]
  rfl

/-- The records are the routes that they were made from, in order. -/
theorem map_discovered_of_recordsFrom {taken : List Text} {routes : List Discovered}
    {records : List Record} (h : recordsFrom taken routes = .ok records) :
    records.map Record.discovered = routes := by
  induction routes generalizing taken records with
  | nil =>
    cases h
    rfl
  | cons d rest ih =>
    rw [recordsFrom] at h
    obtain ⟨id, -, h⟩ := Except.bind_eq_ok.mp h
    obtain ⟨r, hr, h⟩ := Except.bind_eq_ok.mp h
    obtain ⟨later, hlater, h⟩ := Except.bind_eq_ok.mp h
    cases h
    rw [List.map_cons, ih hlater,
      (Discovered.discovered_of_toRecord (Except.mapError_eq_ok.mp hr)).2]

/-- **What becomes of sound routes.** They are the routes of an index, one record for each and in
their order; or the path of one of them is no text, and there is no index; or two ordinals share an
identifier. -/
theorem buildIndex_cases {routes : List Discovered} (hsound : ∀ d ∈ routes, d.IsSound)
    (project : Project) (time : Text) :
    (∃ i, buildIndex project time routes = .ok i ∧ (∀ d ∈ routes, d.HasTextPath) ∧
      i.version = schemaVersion ∧ i.generatedAt = time ∧ i.project = project ∧
      i.routes.map Record.discovered = routes) ∨
    (∃ fault, buildIndex project time routes = .error (.unencodable fault) ∧
      ∃ d ∈ routes, ¬ d.HasTextPath) ∨
    ∃ d ∈ routes, d.HasCollision routes.length := by
  rcases recordsFrom_cases hsound [] with
    ⟨records, hrecords, hall, hroutes, hnodup, -⟩ | ⟨fault, hfault, hnot⟩ | hcollision
  · left
    exact ⟨_, buildIndex_of_recordsFrom hrecords hnodup project time, hall, rfl, rfl, rfl, hroutes⟩
  · right; left
    refine ⟨fault, ?_, hnot⟩
    rw [buildIndex, hfault]
    rfl
  · right; right
    simpa using hcollision

end RouteAtlas
