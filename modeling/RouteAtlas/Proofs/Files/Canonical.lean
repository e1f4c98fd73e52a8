import RouteAtlas.Files.Canonical
import RouteAtlas.Proofs.Files.Follow

/-!
# Canonical paths of what is found

A path that leads somewhere has a canonical form, and this names the place where it leads
(`canonical_of_status`).

A path is followed by putting the target of each link in its place, as often as it is met, and a
canonical form is found with a table of the links met so far. What both have in common is the way
itself with the ways of all targets on it (`Leads`). The links on a way are counted, those on the
ways of targets included, so that the way of a link's own target is shorter than any that has the
link on it. Hence no link is met again while its target is being looked for, and no more links are
entered into the table than there are in the tree.

A link that is being looked for stands in the table without a place. The table is right if every
link with a place leads there (`LinkTable.IsRight`), and links without one have longer ways than
what is left to be taken (`LinkTable.HasLongWays`). Both are kept along a way, whichever links are
on it, and at its end the same links are without a place as at its beginning
(`Leads.canonicalFrom_eq`).

A place without links on the way to it is its own canonical form. These places are what everything
that is done below a directory is about, and for them the names alone decide (`IsDirect`).
-/

namespace RouteAtlas.FileTree

variable {t : FileTree} {links count count' : Nat} {place next last last' link : Place}
  {name target : Text} {names front back : List Text} {entry : Entry} {legs : List Leg}

/-! ## Ways -/

/-- Names lead from a place to another one. So many links are on the way, those on the ways of their
targets included. -/
inductive Leads (t : FileTree) : Nat → Place → List Text → Place → Prop
  | nil (place : Place) : Leads t 0 place [] place
  | entry {count : Nat} {place next last : Place} {name : Text} {rest : List Text}
    (hlook : t.look place name = .ok (.entry next)) (hrest : Leads t count next rest last) :
    Leads t count place (name :: rest) last
  | link {inner outer : Nat} {place middle last : Place} {name target : Text} {rest : List Text}
    (hlook : t.look place name = .ok (.link target))
    (htarget : Leads t inner (startOf target place) (target.splitOn '/') middle)
    (hrest : Leads t outer middle rest last) :
    Leads t (inner + outer + 1) place (name :: rest) last

namespace Leads

/-- A way can be taken in two parts. -/
theorem split (h : Leads t count place (front ++ back) last) :
    ∃ first second middle, first + second = count ∧ Leads t first place front middle ∧
      Leads t second middle back last := by
  induction front generalizing count place with
  | nil => exact ⟨0, count, place, Nat.zero_add count, .nil place, h⟩
  | cons name front ih =>
    cases h with
    | entry hlook hrest =>
      obtain ⟨first, second, middle, rfl, hfront, hback⟩ := ih hrest
      exact ⟨first, second, middle, rfl, .entry hlook hfront, hback⟩
    | @link inner outer _ _ _ _ _ _ hlook htarget hrest =>
      obtain ⟨first, second, middle, rfl, hfront, hback⟩ := ih hrest
      exact ⟨inner + first + 1, second, middle, by omega, .link hlook htarget hfront, hback⟩

/-- There is one way along the same names, and one place at its end. -/
theorem unique (h : Leads t count place names last) (h' : Leads t count' place names last') :
    count = count' ∧ last = last' := by
  induction h generalizing count' last' with
  | nil place =>
    cases h'
    exact ⟨rfl, rfl⟩
  | entry hlook hrest ih =>
    cases h' with
    | entry hlook' hrest' =>
      cases hlook.symm.trans hlook'
      exact ih hrest'
    | link hlook' htarget' hrest' => cases hlook.symm.trans hlook'
  | link hlook htarget hrest ihtarget ihrest =>
    cases h' with
    | entry hlook' hrest' => cases hlook.symm.trans hlook'
    | link hlook' htarget' hrest' =>
      cases hlook.symm.trans hlook'
      obtain ⟨rfl, rfl⟩ := ihtarget htarget'
      obtain ⟨rfl, rfl⟩ := ihrest hrest'
      exact ⟨rfl, rfl⟩

/-- What is found along a path is at the end of a way. -/
theorem exists_of_follow (h : t.follow .followed links place names = .ok (.taken last entry)) :
    ∃ count, Leads t count place names last := by
  fun_induction follow t .followed links place names with
  | case1 links place entry' hentry =>
    cases h
    exact ⟨0, .nil last⟩
  | case2 | case3 | case4 | case5 | case7 => cases h
  | case6 links place name rest target hlook hkept => exact absurd hkept (not_kept rest)
  | case8 place name rest target hlook hkept links ih =>
    obtain ⟨count, hway⟩ := ih h
    obtain ⟨inner, outer, middle, -, htarget, hrest⟩ := hway.split
    exact ⟨inner + outer + 1, .link hlook htarget hrest⟩
  | case9 links place name rest next hlook ih =>
    obtain ⟨count, hway⟩ := ih h
    exact ⟨count, .entry hlook hway⟩

end Leads

/-- The target of the link at a place leads to another place. -/
def LinkLeads (t : FileTree) (count : Nat) (link last : Place) : Prop :=
  ∃ target, t.get? link = some (.link target) ∧
    Leads t count (startOf target link.dropLast) (target.splitOn '/') last

/-- A link leads to one place, over one number of links. -/
theorem LinkLeads.unique (h : LinkLeads t count link last) (h' : LinkLeads t count' link last') :
    count = count' ∧ last = last' := by
  obtain ⟨target, hget, hway⟩ := h
  obtain ⟨target', hget', hway'⟩ := h'
  cases hget.symm.trans hget'
  exact hway.unique hway'

/-- A link that a name leads to. -/
theorem linkLeads_of_look (hlook : t.look place name = .ok (.link target))
    (htarget : Leads t count (startOf target place) (target.splitOn '/') last) :
    LinkLeads t count (place ++ [name]) last := by
  refine ⟨target, (look_eq_link hlook).2, ?_⟩
  rw [List.dropLast_concat]
  exact htarget

/-! ## The table of links -/

/-- The links met so far, with what they lead to once that is found. -/
abbrev LinkTable := List (Place × Option Place)

namespace LinkTable

variable {known : LinkTable}

/-- What the table says on the ends of links is right. -/
def IsRight (t : FileTree) (known : LinkTable) : Prop :=
  ∀ link last, known.lookup link = some (some last) → ∃ count, LinkLeads t count link last

/-- The links whose ends are being looked for have ways that are not shorter than what remains. -/
def HasLongWays (t : FileTree) (known : LinkTable) (count : Nat) : Prop :=
  ∀ link, known.lookup link = some none → ∃ whole last, LinkLeads t whole link last ∧ count ≤ whole

/-- The number of links in the tree that are not in the table. -/
def unmet (t : FileTree) (known : LinkTable) : Nat :=
  t.entries.countP fun row => row.2.isLink && (known.lookup row.1).isNone

/-- What is longer than a way is longer than a part of it. -/
theorem HasLongWays.mono (h : HasLongWays t known count) (hle : count' ≤ count) :
    HasLongWays t known count' := by
  intro link hlink
  obtain ⟨whole, last, hleads, hlong⟩ := h link hlink
  exact ⟨whole, last, hleads, hle.trans hlong⟩

/-- The last entry of a link is the one that counts. -/
theorem lookup_cons (link other : Place) (found : Option Place) (known : LinkTable) :
    List.lookup other ((link, found) :: known) =
      if other = link then some found else known.lookup other := by
  rw [List.lookup_cons]
  by_cases h : other = link
  · rw [h, if_pos rfl]
    simp
  · have hne : (other == link) = false := by simpa using h
    rw [if_neg h, hne]

/-- A link is entered when its target begins to be looked for. -/
theorem IsRight.enter (h : IsRight t known) (link : Place) : IsRight t ((link, none) :: known) := by
  intro other last hlookup
  rw [lookup_cons] at hlookup
  split at hlookup
  · cases hlookup
  · exact h other last hlookup

/-- A link whose target is looked for has a longer way than its target. -/
theorem HasLongWays.enter (h : HasLongWays t known count) (hleads : LinkLeads t count link last) :
    HasLongWays t ((link, none) :: known) count := by
  intro other hlookup
  rw [lookup_cons] at hlookup
  split at hlookup
  next heq => exact ⟨count, last, heq ▸ hleads, le_rfl⟩
  next => exact h other hlookup

/-- It is entered again once the end is found. -/
theorem IsRight.resolve (h : IsRight t known) (hleads : LinkLeads t count link last) :
    IsRight t ((link, some last) :: known) := by
  intro other last' hlookup
  rw [lookup_cons] at hlookup
  split at hlookup
  next heq =>
    cases hlookup
    exact ⟨count, heq ▸ hleads⟩
  next => exact h other last' hlookup

/-- After both, the same links are being looked for as before. -/
theorem lookup_resolve {table : LinkTable} (hnew : known.lookup link = none)
    (htable : ∀ other, table.lookup other = some none ↔
      List.lookup other ((link, none) :: known) = some none) (other : Place) :
    List.lookup other ((link, some last) :: table) = some none ↔
      known.lookup other = some none := by
  have hbefore := htable other
  rw [lookup_cons] at hbefore ⊢
  by_cases heq : other = link
  · rw [if_pos heq, heq, hnew]
    simp
  · rw [if_neg heq] at hbefore ⊢
    exact hbefore

/-- An entry more in the table, and no more links are left. -/
theorem unmet_cons_le (link : Place) (found : Option Place) :
    unmet t ((link, found) :: known) ≤ unmet t known := by
  refine List.countP_mono_left fun row _ h => ?_
  rw [Bool.and_eq_true, lookup_cons] at h
  rw [Bool.and_eq_true]
  refine ⟨h.1, ?_⟩
  split at h
  · cases h.2
  · exact h.2

/-- If a link was not in the table, there is one link less left. -/
theorem unmet_cons_lt (hget : t.get? link = some (.link target)) (hnew : known.lookup link = none)
    (found : Option Place) : unmet t ((link, found) :: known) < unmet t known := by
  have hlink : link ≠ [] := by
    rintro rfl
    rw [get?_nil] at hget
    cases hget
  have hsplit : unmet t ((link, found) :: known) =
      ((t.entries.filter fun row => row.2.isLink && (known.lookup row.1).isNone).filter
        (·.1 != link)).length := by
    rw [unmet, List.countP_eq_length_filter, List.filter_filter]
    congr 1
    refine List.filter_congr fun row _ => ?_
    rw [lookup_cons]
    by_cases h : row.1 = link <;> simp [h]
  rw [hsplit, unmet, List.countP_eq_length_filter]
  refine List.length_filter_lt_length_iff_exists.mpr ⟨(link, .link target), ?_, by simp⟩
  rw [List.mem_filter, mem_entries_iff hlink]
  refine ⟨hget, ?_⟩
  rw [hnew]
  rfl

end LinkTable

open LinkTable

/-! ## One leg -/

theorem not_dots_of_isPlain (h : isPlain name = true) :
    isHere name = false ∧ isAbove name = false := by
  rw [isPlain, Bool.and_eq_true, Bool.and_eq_true, Bool.not_eq_true', Bool.not_eq_true'] at h
  exact h.1

/-- At the end of the way the place is known. -/
theorem canonicalFrom_nil (t : FileTree) (links : Nat) (known : LinkTable) (place : Place) :
    t.canonicalFrom links known place [] = place := by
  rw [canonicalFrom]

/-- When the target of a link has been taken, its place is entered. -/
theorem canonicalFrom_resolved (known : LinkTable) :
    t.canonicalFrom links known place (.resolved link :: legs) =
      t.canonicalFrom links ((link, some place) :: known) place legs := by
  rw [canonicalFrom]

/-- What is no link is reached at once. -/
theorem canonicalFrom_of_entry (hlook : t.look place name = .ok (.entry next))
    (known : LinkTable) :
    t.canonicalFrom links known place (.step name :: legs) =
      t.canonicalFrom links known next legs := by
  rw [canonicalFrom]
  rcases look_cases hlook with ⟨hplain, hfound⟩ | ⟨hhere, hfound⟩ | ⟨hhere, habove, hfound⟩
  · obtain ⟨rfl, entry, hget, hlink⟩ := found_eq_entry hfound.symm
    obtain ⟨hhere, habove⟩ := not_dots_of_isPlain hplain
    have htarget : t.target? (place ++ [name]) = none := by
      rw [target?, hget]
      cases entry with
      | link target => exact absurd rfl (hlink target)
      | file | directory => rfl
    simp only [hhere, habove, htarget, Bool.false_eq_true, if_false]
  · cases hfound
    rw [if_pos hhere]
  · cases hfound
    rw [hhere, habove]
    rfl

/-- A link whose end is known is not followed. -/
theorem canonicalFrom_of_known {known : LinkTable} (hlook : t.look place name = .ok (.link target))
    (hknown : known.lookup (place ++ [name]) = some (some next)) :
    t.canonicalFrom links known place (.step name :: legs) =
      t.canonicalFrom links known next legs := by
  obtain ⟨hplain, hget⟩ := look_eq_link hlook
  obtain ⟨hhere, habove⟩ := not_dots_of_isPlain hplain
  have htarget : t.target? (place ++ [name]) = some target := by rw [target?, hget]
  rw [canonicalFrom]
  simp only [hhere, habove, htarget, hknown, Bool.false_eq_true, if_false]

/-- A link that is met for the first time is entered into the table. -/
theorem canonicalFrom_of_new {known : LinkTable} (hlook : t.look place name = .ok (.link target))
    (hnew : known.lookup (place ++ [name]) = none) :
    t.canonicalFrom (links + 1) known place (.step name :: legs) =
      t.canonicalFrom links ((place ++ [name], none) :: known) (startOf target place)
        ((target.splitOn '/').map .step ++ .resolved (place ++ [name]) :: legs) := by
  obtain ⟨hplain, hget⟩ := look_eq_link hlook
  obtain ⟨hhere, habove⟩ := not_dots_of_isPlain hplain
  have htarget : t.target? (place ++ [name]) = some target := by rw [target?, hget]
  rw [canonicalFrom]
  simp only [hhere, habove, htarget, hnew, Bool.false_eq_true, if_false, legsOf]

/-! ## The whole way -/

/-- A way is taken to its end, and the table is right again then, with the same links left to be
found. -/
theorem Leads.canonicalFrom_eq (h : Leads t count place names last) {known : LinkTable}
    (hright : known.IsRight t) (hlong : known.HasLongWays t count)
    (hlinks : known.unmet t ≤ links) (legs : List Leg) :
    ∃ (links' : Nat) (known' : LinkTable),
      t.canonicalFrom links known place (names.map .step ++ legs) =
        t.canonicalFrom links' known' last legs ∧
      known'.IsRight t ∧ known'.unmet t ≤ links' ∧
      ∀ link, known'.lookup link = some none ↔ known.lookup link = some none := by
  induction h generalizing known links legs with
  | nil place => exact ⟨links, known, rfl, hright, hlinks, fun link => Iff.rfl⟩
  | entry hlook hrest ih =>
    rw [List.map_cons, List.cons_append, canonicalFrom_of_entry hlook]
    exact ih hright hlong hlinks legs
  | @link inner outer place middle last name target rest hlook htarget hrest ihtarget ihrest =>
    have hleads := linkLeads_of_look hlook htarget
    rw [List.map_cons, List.cons_append]
    rcases hfound : known.lookup (place ++ [name]) with _ | _ | found
    · -- It is met for the first time: its target comes first, then its end is entered.
      have hfewer := unmet_cons_lt (look_eq_link hlook).2 hfound none
      obtain ⟨left, rfl⟩ : ∃ left, links = left + 1 := ⟨links - 1, by omega⟩
      have hleft : LinkTable.unmet t ((place ++ [name], none) :: known) ≤ left := by omega
      rw [canonicalFrom_of_new hlook hfound]
      have hshorter : inner ≤ inner + outer + 1 := by omega
      obtain ⟨links₁, known₁, hreached, hright₁, hlinks₁, hpending₁⟩ :=
        ihtarget (hright.enter _) ((hlong.mono hshorter).enter hleads) hleft
          (.resolved (place ++ [name]) :: (rest.map .step ++ legs))
      have hpending₂ (link : Place) :
          List.lookup link ((place ++ [name], some middle) :: known₁) = some none ↔
            known.lookup link = some none := lookup_resolve hfound hpending₁ link
      have houter : LinkTable.HasLongWays t ((place ++ [name], some middle) :: known₁) outer :=
        fun link hlookup => hlong.mono (by omega) link ((hpending₂ link).mp hlookup)
      obtain ⟨links₂, known₂, hend, hright₂, hlinks₂, hpending₃⟩ :=
        ihrest (hright₁.resolve hleads) houter ((unmet_cons_le _ _).trans hlinks₁) legs
      refine ⟨links₂, known₂, ?_, hright₂, hlinks₂, fun link =>
        (hpending₃ link).trans (hpending₂ link)⟩
      rw [hreached, canonicalFrom_resolved, hend]
    · -- It cannot be looked for already, since its way would have to be longer than it is.
      obtain ⟨whole, last', hwhole, hle⟩ := hlong _ hfound
      have hsame := (hwhole.unique hleads).1
      omega
    · obtain ⟨count, hcount⟩ := hright _ _ hfound
      obtain ⟨-, rfl⟩ := hleads.unique hcount
      rw [canonicalFrom_of_known hlook hfound]
      exact ihrest hright (hlong.mono (by omega)) hlinks legs

/-- The canonical form of a path that leads somewhere is the place where it leads. -/
theorem canonicalFrom_of_follow
    (h : t.follow .followed links [] names = .ok (.taken last entry)) :
    t.canonicalFrom t.linkCount [] [] (names.map .step) = last := by
  obtain ⟨count, hway⟩ := Leads.exists_of_follow h
  have hright : LinkTable.IsRight t [] := fun link last hlookup => by cases hlookup
  have hlong : LinkTable.HasLongWays t [] count := fun link hlookup => by cases hlookup
  have hlinks : LinkTable.unmet t [] ≤ t.linkCount := by
    refine List.countP_mono_left fun row _ h => ?_
    rw [Bool.and_eq_true] at h
    exact h.1
  obtain ⟨links', known', hend, -⟩ := hway.canonicalFrom_eq hright hlong hlinks []
  rw [List.append_nil] at hend
  rw [hend, canonicalFrom_nil]

/-! ## Places that lead to themselves -/

/-- On the way to a place by its own names there are no dots and no links. -/
structure IsDirect (t : FileTree) (place : Place) : Prop where
  plain : ∀ name ∈ place, isPlain name = true
  linkless : ∀ above, above <+: place → ∀ target, t.get? above ≠ some (.link target)

theorem isDirect_nil (t : FileTree) : t.IsDirect [] := by
  constructor
  · intro name hname
    cases hname
  · intro above habove target
    rw [List.prefix_nil.mp habove, get?_nil]
    simp

/-- The places on the way are direct as well. -/
theorem IsDirect.of_prefix (h : t.IsDirect place) (hnext : next <+: place) : t.IsDirect next :=
  ⟨fun name hname => h.plain name (hnext.subset hname), fun above habove =>
    h.linkless above (habove.trans hnext)⟩

/-- A directory that a name leads to is one of them. -/
theorem IsDirect.of_look (h : t.IsDirect place) (hlook : t.look place name = .ok (.entry next)) :
    t.IsDirect next := by
  rcases look_cases hlook with ⟨hplain, hfound⟩ | ⟨-, hfound⟩ | ⟨-, -, hfound⟩
  · obtain ⟨rfl, entry, hget, hlink⟩ := found_eq_entry hfound.symm
    constructor
    · rw [List.forall_mem_append, List.forall_mem_singleton]
      exact ⟨h.plain, hplain⟩
    · intro above habove target
      rcases List.prefix_concat_iff.mp habove with rfl | hpart
      · rw [hget]
        exact fun heq => hlink target (Option.some.inj heq)
      · exact h.linkless above hpart target
  · cases hfound
    exact h
  · cases hfound
    exact h.of_prefix place.dropLast_prefix

/-- What is found along a path stands at such a place. -/
theorem IsDirect.of_follow (h : t.IsDirect place)
    (hfollow : t.follow .followed links place names = .ok (.taken last entry)) :
    t.IsDirect last := by
  fun_induction follow t .followed links place names with
  | case1 links place entry' hentry =>
    cases hfollow
    exact h
  | case2 | case3 | case4 | case5 | case7 => cases hfollow
  | case6 links place name rest target hlook hkept => exact absurd hkept (not_kept rest)
  | case8 place name rest target hlook hkept links ih =>
    refine ih ?_ hfollow
    unfold startOf
    split
    · exact isDirect_nil t
    · exact h
  | case9 links place name rest next hlook ih => exact ih (h.of_look hlook) hfollow

/-- No links are followed on the way to such a place. -/
theorem IsDirect.follow_ne_tooManyLinks (h : t.IsDirect (place ++ names)) :
    t.follow .followed links place names ≠ .error .tooManyLinks := by
  induction names generalizing place with
  | nil =>
    rw [follow_nil_eq]
    split <;> simp
  | cons name rest ih =>
    rw [← List.singleton_append, ← List.append_assoc] at h
    cases hlook : t.look place name with
    | error reason =>
      rw [follow_of_error hlook]
      rcases look_eq_error hlook with rfl | ⟨rfl, -⟩ <;> simp
    | ok found =>
      have hplain : isPlain name = true := h.plain name (by simp)
      have hfound : found = t.found (place ++ [name]) := by
        rw [look_of_isPlain (get?_of_look hlook) hplain] at hlook
        exact (Except.ok.inj hlook).symm
      cases found with
      | nothing =>
        rw [follow_of_nothing hlook]
        split <;> simp
      -- There are no links on this way.
      | link target =>
        have hget := found_eq_link hfound.symm
        exact absurd hget (h.linkless _ (List.prefix_append _ _) target)
      | entry next =>
        obtain ⟨rfl, -⟩ := found_eq_entry hfound.symm
        rw [follow_of_entry hlook]
        exact ih h

theorem IsDirect.reason_ne_tooManyLinks (h : t.IsDirect place) {fault : FileFault}
    (hstatus : t.status ⟨.slash, place⟩ = .error fault) : fault.reason ≠ .tooManyLinks := by
  by_cases hlookable : IsLookable ⟨.slash, place⟩
  · rw [status_of_isLookable hlookable] at hstatus
    split at hstatus
    next => cases hstatus
    next =>
      cases hstatus
      simp
    next reason hreason =>
      cases hstatus
      rintro rfl
      have hwhole : t.IsDirect ([] ++ place) := h
      exact hwhole.follow_ne_tooManyLinks hreason
  · -- Such a path is not followed at all.
    unfold status locate at hstatus
    split_ifs at hstatus with hnull hlong
    · cases hstatus
      simp
    · cases hstatus
      simp
    · exact absurd ⟨by simpa using hnull, Nat.not_lt.mp hlong⟩ hlookable

/-- A path leads to what stands at such a place, by its own names. -/
theorem IsDirect.follow_eq (h : t.IsDirect (place ++ names)) (hrooted : t.IsRooted)
    (hget : t.get? (place ++ names) = some entry) :
    t.follow .followed links place names = .ok (.taken (place ++ names) entry) := by
  induction names generalizing place with
  | nil =>
    rw [List.append_nil] at hget ⊢
    exact follow_nil t _ _ hget
  | cons name rest ih =>
    have hplace := hrooted.directory_above hget (List.cons_ne_nil name rest)
    rw [← List.singleton_append, ← List.append_assoc] at h hget ⊢
    have hplain : isPlain name = true := h.plain name (by simp)
    -- All but the last of the places are directories, since something stands below them.
    have hfound : t.found (place ++ [name]) = .entry (place ++ [name]) := by
      have hlink := h.linkless _ (List.prefix_append _ rest)
      by_cases hrest : rest = []
      · rw [hrest, List.append_nil] at hget
        unfold found
        rw [hget]
        cases entry with
        | link target => exact absurd hget (hlink target)
        | file => rfl
        | directory => rfl
      · rw [found, hrooted.directory_above hget hrest]
    rw [List.singleton_append, follow_of_entry ((look_of_isPlain hplace hplain).trans
      (congrArg Except.ok hfound)), ih h hget]

/-- A path leads to such a place if it is short enough. -/
theorem IsDirect.status_eq (hrooted : t.IsRooted) (h : t.IsDirect place)
    (hget : t.get? place = some entry) (hlookable : IsLookable ⟨.slash, place⟩) :
    t.status ⟨.slash, place⟩ = .ok (place, entry) := by
  have hbelow : t.IsDirect ([] ++ place) := h
  have hfollow : t.follow .followed linkLimit [] place = .ok (.taken place entry) :=
    hbelow.follow_eq hrooted hget
  rw [status_of_isLookable hlookable, hfollow]

theorem IsDirect.canonicalFrom_eq (h : t.IsDirect (place ++ names)) (known : LinkTable) :
    t.canonicalFrom count known place (names.map .step) = place ++ names := by
  induction names generalizing place with
  | nil => rw [List.map_nil, canonicalFrom_nil, List.append_nil]
  | cons name rest ih =>
    have hplain := not_dots_of_isPlain (h.plain name (by simp))
    rw [← List.singleton_append, ← List.append_assoc] at h
    have htarget : t.target? (place ++ [name]) = none := by
      unfold target?
      split
      next target hlink => exact absurd hlink (h.linkless _ (List.prefix_append _ rest) target)
      next => rfl
    rw [List.map_cons, canonicalFrom, hplain.1, hplain.2]
    simp only [Bool.false_eq_true, if_false]
    rw [htarget]
    dsimp only
    rw [ih h, List.append_assoc, List.singleton_append]

/-- The path of such a place is canonical, whether or not it can be looked up. -/
theorem IsDirect.canonical_eq (h : t.IsDirect place) :
    t.canonical ⟨.slash, place⟩ = .ok ⟨.slash, place⟩ := by
  have hbelow : t.IsDirect ([] ++ place) := h
  have hform : t.canonicalFrom t.linkCount [] [] (place.map .step) = place :=
    hbelow.canonicalFrom_eq []
  unfold canonical
  rw [hform]
  dsimp only
  split
  next hstatus => exact absurd rfl (h.reason_ne_tooManyLinks hstatus)
  next => rfl

/-- In a rooted tree, whatever is no link stands at such a place, if its names are plain. -/
theorem IsRooted.isDirect (hrooted : t.IsRooted) (hplain : ∀ name ∈ place, isPlain name = true)
    (hget : t.get? place = some entry) (hlink : ∀ target, entry ≠ .link target) :
    t.IsDirect place := by
  refine ⟨hplain, fun above habove target => ?_⟩
  obtain ⟨names, rfl⟩ := habove
  by_cases hnames : names = []
  · rw [hnames, List.append_nil] at hget
    rw [hget]
    exact fun heq => hlink target (Option.some.inj heq)
  · rw [hrooted.directory_above hget hnames]
    simp

theorem follow_of_status {path : Path} (h : t.status path = .ok (place, entry)) :
    t.follow .followed linkLimit [] path.names = .ok (.taken place entry) := by
  rw [status_of_isLookable (isLookable_of_status h)] at h
  split at h
  next hfollow =>
    cases h
    exact hfollow
  next => cases h
  next => cases h

/-- **What is found has a canonical path**: the place where it is found. -/
theorem canonical_of_status {path : Path} (h : t.status path = .ok (place, entry)) :
    t.canonical path = .ok ⟨.slash, place⟩ := by
  have hfollow := follow_of_status h
  have hform : t.canonicalFrom t.linkCount [] [] (path.names.map .step) = place :=
    canonicalFrom_of_follow hfollow
  unfold canonical
  rw [hform]
  dsimp only
  split
  next hstatus =>
    have hdirect := (isDirect_nil t).of_follow hfollow
    exact absurd rfl (hdirect.reason_ne_tooManyLinks hstatus)
  next => rfl

end RouteAtlas.FileTree
