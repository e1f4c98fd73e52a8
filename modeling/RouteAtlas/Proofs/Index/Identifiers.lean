import Mathlib.Data.List.Perm.Subperm
import Mathlib.Order.Bounds.Basic
import RouteAtlas.Proofs.Digest
import RouteAtlas.Proofs.Index.Build

/-!
# Which identifiers an index gives

Each route of an index has the identifier of the least ordinal that no route before it has taken.
What comes behind a route has no say in that, so an index of more routes begins with the records of
the index of the first ones (`exists_recordsFrom_of_append`).

A route whose plain identifier is its own alone gets it wherever it stands. If that holds of all
routes, the records are made one by one (`recordsFrom_of_plain`), and neither their order nor what
else there is makes a difference to any of them.

Nothing is used of the digest: it may give different routes, or different ordinals of one route, the
same identifier.
-/

namespace RouteAtlas

/-- The identifier of a route with an ordinal is not taken. -/
def Discovered.IsFreeAt (d : Discovered) (taken : List Text) (ordinal : Nat) : Prop :=
  ∃ id, d.identifier ordinal = .ok id ∧ id ∉ taken

theorem Discovered.isFreeAt_congr {d : Discovered} {taken taken' : List Text}
    (h : ∀ id, id ∈ taken ↔ id ∈ taken') (ordinal : Nat) :
    d.IsFreeAt taken ordinal ↔ d.IsFreeAt taken' ordinal := by
  unfold IsFreeAt
  simp only [h]

theorem Discovered.isLeast_isFreeAt {d : Discovered} {taken : List Text} {k : Nat} {id : Text}
    (hall : d.AllTaken taken k) (hid : d.identifier k = .ok id) (hfree : id ∉ taken) :
    IsLeast {k | d.IsFreeAt taken k} k := by
  constructor
  · exact ⟨id, hid, hfree⟩
  · intro m hm
    obtain ⟨other, hother, hnew⟩ := hm
    by_contra hlt
    obtain ⟨passed, htaken, hpassed⟩ := hall m (Nat.lt_of_not_le hlt)
    rw [hother] at hpassed
    cases hpassed
    exact hnew htaken

variable {taken : List Text} {d : Discovered} {routes others first last : List Discovered}
  {records : List Record}

/-- **What one step adds**: the record of the route, under the first identifier that is free. -/
theorem recordsFrom_cons_eq_ok_iff :
    recordsFrom taken (d :: routes) = .ok records ↔
      ∃ r later, freeIdentifier d taken = .ok r.id ∧ d.toRecord r.id = .ok r ∧
        recordsFrom (r.id :: taken) routes = .ok later ∧ records = r :: later := by
  rw [recordsFrom]
  constructor
  · intro h
    obtain ⟨id, hid, h⟩ := Except.bind_eq_ok.mp h
    obtain ⟨r, hr, h⟩ := Except.bind_eq_ok.mp h
    obtain ⟨later, hlater, h⟩ := Except.bind_eq_ok.mp h
    cases h
    rw [Except.mapError_eq_ok] at hr
    obtain rfl := (Discovered.discovered_of_toRecord hr).1
    exact ⟨r, later, hid, hr, hlater, rfl⟩
  · intro h
    obtain ⟨r, later, hid, hr, hlater, rfl⟩ := h
    rw [hid]
    simp only [bind, Except.bind, Except.mapError_eq_ok.mpr hr, hlater]
    rfl

/-- No identifier is given twice, and none that is taken. -/
theorem nodup_of_recordsFrom (h : recordsFrom taken routes = .ok records) :
    (records.map Record.id).Nodup ∧ ∀ id ∈ records.map Record.id, id ∉ taken := by
  induction routes generalizing taken records with
  | nil =>
    cases h
    simp
  | cons d routes ih =>
    obtain ⟨r, later, hid, -, hlater, rfl⟩ := recordsFrom_cons_eq_ok_iff.mp h
    obtain ⟨-, -, -, hfree⟩ := Discovered.freeIdentifier_eq_ok_iff.mp hid
    obtain ⟨hnodup, hnew⟩ := ih hlater
    rw [List.map_cons, List.nodup_cons, List.forall_mem_cons]
    refine ⟨⟨fun hmem => hnew _ hmem List.mem_cons_self, hnodup⟩, hfree, ?_⟩
    intro id hmem htaken
    exact hnew id hmem (List.mem_cons_of_mem _ htaken)

/-- Each identifier is that of the least ordinal that was free at its turn. -/
theorem exists_isLeast_of_recordsFrom (h : recordsFrom taken routes = .ok records)
    {before after : List Record} {r : Record} (hsplit : records = before ++ r :: after) :
    ∃ k, IsLeast {k | r.discovered.IsFreeAt (before.map Record.id ++ taken) k} k ∧
      r.discovered.identifier k = .ok r.id := by
  induction routes generalizing taken records before with
  | nil =>
    cases h
    simp at hsplit
  | cons d routes ih =>
    obtain ⟨first, later, hid, hfirst, hlater, rfl⟩ := recordsFrom_cons_eq_ok_iff.mp h
    cases before with
    | nil =>
      obtain ⟨rfl, rfl⟩ := List.cons.inj hsplit
      rw [(Discovered.discovered_of_toRecord hfirst).2]
      obtain ⟨k, hall, hk, hfree⟩ := Discovered.freeIdentifier_eq_ok_iff.mp hid
      exact ⟨k, Discovered.isLeast_isFreeAt hall hk hfree, hk⟩
    | cons b before =>
      obtain ⟨rfl, hrest⟩ := List.cons.inj hsplit
      obtain ⟨k, hleast, hk⟩ := ih hlater hrest
      refine ⟨k, ?_, hk⟩
      have hsame : ∀ id, id ∈ before.map Record.id ++ first.id :: taken ↔
          id ∈ (first :: before).map Record.id ++ taken := by
        intro id
        simp only [List.map_cons, List.cons_append, List.mem_append, List.mem_cons]
        tauto
      simpa only [Discovered.isFreeAt_congr hsame] using hleast

/-- The first routes are given what they are given without those behind them. -/
theorem exists_recordsFrom_of_append (h : recordsFrom taken (first ++ last) = .ok records) :
    ∃ records', recordsFrom taken first = .ok records' ∧ records' <+: records := by
  induction first generalizing taken records with
  | nil => exact ⟨[], rfl, List.nil_prefix⟩
  | cons d first ih =>
    obtain ⟨r, later, hid, hr, hlater, rfl⟩ := recordsFrom_cons_eq_ok_iff.mp h
    obtain ⟨later', hlater', hprefix⟩ := ih hlater
    exact ⟨r :: later', recordsFrom_cons_eq_ok_iff.mpr ⟨r, later', hid, hr, hlater', rfl⟩,
      List.cons_prefix_cons.mpr ⟨rfl, hprefix⟩⟩

/-! ## Plain identifiers -/

/-- The record of a route under its plain identifier, the one of ordinal 0. -/
def Discovered.plainRecord (d : Discovered) : Except BuildFault Record := do
  let id ← (d.identifier 0).mapError .unencodable
  (d.toRecord id).mapError .invalid

/-- Where no plain identifier is taken or repeated, each route gets its own. -/
theorem recordsFrom_of_plain (hnodup : (routes.map (·.identifier 0)).Nodup)
    (hnew : ∀ d ∈ routes, ∀ id ∈ taken, d.identifier 0 ≠ .ok id) :
    recordsFrom taken routes = routes.mapM Discovered.plainRecord := by
  induction routes generalizing taken with
  | nil => rfl
  | cons d routes ih =>
    rw [List.map_cons, List.nodup_cons] at hnodup
    rw [List.forall_mem_cons] at hnew
    rw [recordsFrom, List.mapM_cons, Discovered.plainRecord]
    cases hid : d.identifier 0 with
    | error fault =>
      rw [Discovered.freeIdentifier_of_error hid]
      rfl
    | ok id =>
      have hfree : id ∉ taken := fun htaken => hnew.1 id htaken hid
      have hfound : freeIdentifier d taken = .ok id :=
        Discovered.freeIdentifier_eq_ok_iff.mpr
          ⟨0, fun k hk => absurd hk (Nat.not_lt_zero k), hid, hfree⟩
      have hrest : recordsFrom (id :: taken) routes = routes.mapM Discovered.plainRecord := by
        refine ih hnodup.2 fun e he other hother heq => ?_
        rcases List.mem_cons.mp hother with rfl | htaken
        · exact hnodup.1 (List.mem_map.mpr ⟨e, he, heq.trans hid.symm⟩)
        · exact hnew.2 e he other htaken heq
      rw [hfound]
      simp only [bind, Except.bind, Except.mapError, hrest]

/-- **Routes that agree in no plain identifier keep their records** in any order and whichever of
them are left. -/
theorem exists_recordsFrom_of_subperm (h : recordsFrom [] routes = .ok records)
    (hnodup : (routes.map (·.identifier 0)).Nodup) (hsub : others.Subperm routes) :
    ∃ records', recordsFrom [] others = .ok records' ∧ records'.Subperm records := by
  have hnone (routes : List Discovered) :
      ∀ d ∈ routes, ∀ id ∈ ([] : List Text), d.identifier 0 ≠ .ok id := by simp
  have hnodup' : (others.map (·.identifier 0)).Nodup := by
    obtain ⟨kept, hperm, hkept⟩ := hsub
    exact (hperm.map _).nodup_iff.mp (hnodup.sublist (hkept.map _))
  rw [recordsFrom_of_plain hnodup (hnone routes)] at h
  rw [recordsFrom_of_plain hnodup' (hnone others)]
  obtain ⟨records', hrecords'⟩ := Except.exists_mapM_eq_ok fun d hd =>
    Except.exists_of_mapM_eq_ok h d (hsub.subset hd)
  refine ⟨records', hrecords', ?_⟩
  obtain ⟨kept, hperm, hkept⟩ := hsub
  rw [Except.eq_filterMap_of_mapM h, Except.eq_filterMap_of_mapM hrecords']
  exact ⟨_, hperm.filterMap _, hkept.filterMap _⟩

/-! ## Built indexes -/

theorem exists_buildIndex_of_recordsFrom (h : recordsFrom [] routes = .ok records)
    (project : Project) (time : Text) :
    ∃ i, buildIndex project time routes = .ok i ∧ i.routes = records :=
  ⟨_, buildIndex_of_recordsFrom h (nodup_of_recordsFrom h).1 project time, rfl⟩

/-- A sound route with a text for a path makes a record under its plain identifier. -/
theorem Discovered.exists_plainRecord (hsound : d.IsSound) (htext : d.HasTextPath) :
    ∃ r, d.plainRecord = .ok r := by
  obtain ⟨id, hid, hne⟩ := identifier_of_hasTextPath htext 0
  obtain ⟨r, hr, -⟩ := toRecord_of_isSound hsound htext hne
  refine ⟨r, ?_⟩
  rw [plainRecord, hid]
  simp only [Except.mapError, bind, Except.bind, hr]

/-- An identifier may be computed with the digest on numbers. -/
theorem Discovered.identifier_eq_numbers (d : Discovered) :
    d.identifier = fun ordinal =>
      Utf8.encodeCode (d.identity ordinal).text >>= fun bytes =>
        pure ((Digest.sha256Numbers bytes).take identifierLength) := by
  funext ordinal
  simp only [identifier, Identity.identifier, Digest.sha256_eq_sha256Numbers]

/-- **Routes that agree in no plain identifier make an index**, if they are sound and have texts for
paths. Nothing is asked of the identifiers of other ordinals, for none of those is ever tried. -/
theorem exists_buildIndex_of_nodup (hsound : ∀ d ∈ routes, d.IsSound)
    (htext : ∀ d ∈ routes, d.HasTextPath) (hnodup : (routes.map (·.identifier 0)).Nodup)
    (project : Project) (time : Text) : ∃ i, buildIndex project time routes = .ok i := by
  have hrecords : ∃ records, recordsFrom [] routes = .ok records := by
    rw [recordsFrom_of_plain hnodup (by simp)]
    exact Except.exists_mapM_eq_ok fun d hd => d.exists_plainRecord (hsound d hd) (htext d hd)
  obtain ⟨records, hrecords⟩ := hrecords
  obtain ⟨i, hi, -⟩ := exists_buildIndex_of_recordsFrom hrecords project time
  exact ⟨i, hi⟩

/-- **The identifiers of an index.** The records of an index are its routes, in their order. Their
identifiers are distinct, and each is that of the least ordinal whose identifier no record before it
has. So the index of the first routes alone has the same records at its beginning; and if no two
routes have the same plain identifier, then so does the index of any of them, in any order, for each
that is left. -/
theorem buildIndex_identifies {project : Project} {time : Text} {i : Index}
    (h : buildIndex project time routes = .ok i) :
    i.routes.map Record.discovered = routes ∧
      (i.routes.map Record.id).Nodup ∧
      (∀ before r after, i.routes = before ++ r :: after →
        ∃ k, IsLeast {k | r.discovered.IsFreeAt (before.map Record.id) k} k ∧
          r.discovered.identifier k = .ok r.id) ∧
      (∀ first last, routes = first ++ last → ∀ elsewhere later,
        ∃ j, buildIndex elsewhere later first = .ok j ∧ j.routes <+: i.routes) ∧
      ((routes.map (·.identifier 0)).Nodup → ∀ others, others.Subperm routes → ∀ elsewhere later,
        ∃ j, buildIndex elsewhere later others = .ok j ∧
          j.routes.map Record.discovered = others ∧ j.routes.Subperm i.routes) := by
  have hrecords := recordsFrom_of_buildIndex h
  refine ⟨map_discovered_of_recordsFrom hrecords, i.distinct, ?_, ?_, ?_⟩
  · intro before r after hsplit
    simpa only [List.append_nil] using exists_isLeast_of_recordsFrom hrecords hsplit
  · rintro first last rfl elsewhere later
    obtain ⟨records, hfirst, hprefix⟩ := exists_recordsFrom_of_append hrecords
    obtain ⟨j, hj, rfl⟩ := exists_buildIndex_of_recordsFrom hfirst elsewhere later
    exact ⟨j, hj, hprefix⟩
  · intro hnodup others hsub elsewhere later
    obtain ⟨records, hothers, hkept⟩ := exists_recordsFrom_of_subperm hrecords hnodup hsub
    obtain ⟨j, hj, rfl⟩ := exists_buildIndex_of_recordsFrom hothers elsewhere later
    exact ⟨j, hj, map_discovered_of_recordsFrom hothers, hkept⟩

/-- Ordinals with identifiers of their own do not collide. -/
theorem Discovered.not_hasCollision_of_nodup {bound : Nat}
    (h : ((List.range (bound + 1)).map d.identifier).Nodup) : ¬ d.HasCollision bound := by
  intro hcollision
  obtain ⟨m, n, id, hlt, hle, hm, hn⟩ := hcollision
  have heq : m = n := List.inj_on_of_nodup_map h (List.mem_range.mpr (by omega))
    (List.mem_range.mpr (by omega)) (hm.trans hn.symm)
  omega

/-- A route that is found twice. -/
def twinRoute : Discovered where
  kind := .endpoint
  path := CodeText.ofString "/pets"
  file := "a.py".toList
  line := 1
  controller := "a.r".toList
  method := some .get
  action := some "pets".toList

theorem buildIndex_identifies_twins :
    ∃ i, buildIndex ⟨['/'], "python".toList, "python".toList⟩ [] [twinRoute, twinRoute] = .ok i ∧
      i.routes.map Record.discovered = [twinRoute, twinRoute] ∧ (i.routes.map Record.id).Nodup ∧
      ∃ j, buildIndex ⟨['/'], "python".toList, "python".toList⟩ [] [twinRoute] = .ok j ∧
        j.routes <+: i.routes := by
  have hsound : ∀ d ∈ [twinRoute, twinRoute], d.IsSound := by
    intro d hd
    obtain rfl : d = twinRoute := by simpa using hd
    exact ⟨by decide, _, rfl⟩
  have htext : ∀ d ∈ [twinRoute, twinRoute], d.HasTextPath := by decide
  have hdistinct : ((List.range 3).map twinRoute.identifier).Nodup := by
    rw [Discovered.identifier_eq_numbers]
    exact .of_map Except.toOption (by decide +kernel)
  rcases buildIndex_cases hsound ⟨['/'], "python".toList, "python".toList⟩ [] with
    ⟨i, hi, -⟩ | ⟨-, -, d, hd, hnot⟩ | ⟨d, hd, hcollision⟩
  · obtain ⟨hroutes, hnodup, -, hfirst, -⟩ := buildIndex_identifies hi
    exact ⟨i, hi, hroutes, hnodup, hfirst [twinRoute] [twinRoute] rfl _ _⟩
  · exact absurd (htext d hd) hnot
  · obtain rfl : d = twinRoute := by simpa using hd
    exact absurd hcollision (Discovered.not_hasCollision_of_nodup hdistinct)

end RouteAtlas
