import Mathlib.Data.List.Basic
import Mathlib.Data.List.Induction
import RouteAtlas.Route.Join

/-!
# Joined templates

Whatever two parts are joined, the path starts with a slash, and what stands between its slashes
stands between those of the parts: nothing is lost, merged or made up where the parts meet
(`joined_paths`). The two ways of joining differ only where the second part starts with a slash,
which is the whole path in the one and makes no difference in the other.

All of it comes from two facts on the parts of a path between slashes: a slash divides them
(`slashParts_append_cons`), so slashes at either end add only empty parts, which do not count.

A path is a list over any type with a slash in it. One of the two scans joins texts and the other
one code points, so that a path may hold halves of pairs; nothing that is said here looks at what
else stands in a path.
-/

namespace RouteAtlas

variable {α : Type} [DecidableEq α] [HasSlash α]

/-! ## A slash in front -/

theorem isSlash_slash : isSlash (HasSlash.slash : α) = true := beq_self_eq_true _

/-- A path that is rooted starts with a slash, which is put in front if it does not. -/
theorem startsWithSlash_rooted (path : List α) : startsWithSlash (rooted path) = true := by
  unfold rooted
  split
  next h => exact h
  next => simp [startsWithSlash, isSlash]

theorem startsWithSlash_underController (template route : List α) :
    startsWithSlash (underController template route) = true := by
  unfold underController
  split
  · exact startsWithSlash_rooted route
  · split
    · exact startsWithSlash_rooted template
    · split
      next h => exact h
      next => exact startsWithSlash_rooted _

theorem startsWithSlash_underRouter (base template : List α) :
    startsWithSlash (underRouter base template) = true := by
  unfold underRouter
  split
  · exact startsWithSlash_rooted template
  · split
    · exact startsWithSlash_rooted base
    · exact startsWithSlash_rooted _

/-- What starts with a slash is a slash and something behind it. -/
theorem exists_eq_slash_cons {path : List α} (h : startsWithSlash path = true) :
    ∃ rest, path = HasSlash.slash :: rest := by
  cases path with
  | nil => cases h
  | cons x rest =>
    have hx : x = HasSlash.slash := beq_iff_eq.mp h
    exact ⟨rest, by rw [hx]⟩

/-! ## Parts between slashes -/

/-- The non-empty parts of a path between slashes. -/
def slashParts (path : List α) : List (List α) := (path.splitOnP isSlash).filter (!·.isEmpty)

theorem slashParts_nil : slashParts ([] : List α) = [] := by
  rw [slashParts, List.splitOnP_nil]
  rfl

/-- A slash divides the parts in front of it from those behind it. -/
theorem slashParts_append_cons (front back : List α) :
    slashParts (front ++ HasSlash.slash :: back) = slashParts front ++ slashParts back := by
  rw [slashParts, List.splitOnP_append_cons _ _ isSlash_slash, List.filter_append]
  rfl

/-- A slash in front of a path adds no part. -/
theorem slashParts_slash_cons (path : List α) :
    slashParts (HasSlash.slash :: path) = slashParts path := by
  have h := slashParts_append_cons [] path
  rwa [slashParts_nil, List.nil_append, List.nil_append] at h

/-- A slash behind a path adds no part. -/
theorem slashParts_concat_slash (path : List α) :
    slashParts (path ++ [HasSlash.slash]) = slashParts path := by
  rw [slashParts_append_cons, slashParts_nil, List.append_nil]

theorem slashParts_rooted (path : List α) : slashParts (rooted path) = slashParts path := by
  unfold rooted
  split
  · rfl
  · exact slashParts_slash_cons path

/-- Slashes in front of a path make no difference. -/
theorem slashParts_dropWhile (path : List α) :
    slashParts (path.dropWhile isSlash) = slashParts path := by
  induction path with
  | nil => rfl
  | cons x path ih =>
    by_cases hx : isSlash x = true
    · rw [List.dropWhile_cons_of_pos hx, ih, beq_iff_eq.mp hx, slashParts_slash_cons]
    · rw [List.dropWhile_cons_of_neg hx]

/-- Slashes behind a path make no difference. -/
theorem slashParts_dropEndWhile (path : List α) :
    slashParts (path.reverse.dropWhile isSlash).reverse = slashParts path := by
  induction path using List.reverseRecOn with
  | nil => rfl
  | append_singleton path x ih =>
    rw [List.reverse_concat]
    by_cases hx : isSlash x = true
    · rw [List.dropWhile_cons_of_pos hx, ih, beq_iff_eq.mp hx, slashParts_concat_slash]
    · rw [List.dropWhile_cons_of_neg hx, List.reverse_cons, List.reverse_reverse]

/-- With a slash between two paths, the parts of the one come before those of the other. -/
theorem slashParts_glue (first second : List α) :
    slashParts (glue first second) = slashParts first ++ slashParts second := by
  rw [glue, slashParts_rooted, slashParts_append_cons, slashParts_dropEndWhile, slashParts_dropWhile]

/-- A route that starts with a slash replaces the template of its controller. -/
theorem slashParts_underController (template route : List α) :
    slashParts (underController template route) =
      if startsWithSlash route then slashParts route
      else slashParts template ++ slashParts route := by
  unfold underController
  split
  next h =>
    rw [List.isEmpty_iff.mp h, slashParts_nil, List.nil_append, ite_self, slashParts_rooted]
  next =>
    split
    next h =>
      rw [List.isEmpty_iff.mp h, slashParts_nil, List.append_nil, slashParts_rooted]
      rfl
    next =>
      split
      · rfl
      · exact slashParts_glue template route

/-- A route goes on behind the base of its router in any case. -/
theorem slashParts_underRouter (base template : List α) :
    slashParts (underRouter base template) = slashParts base ++ slashParts template := by
  unfold underRouter
  split
  next h => rw [List.isEmpty_iff.mp h, slashParts_nil, List.nil_append, slashParts_rooted]
  next =>
    split
    next h => rw [List.isEmpty_iff.mp h, slashParts_nil, List.append_nil, slashParts_rooted]
    next => exact slashParts_glue base template

/-! ## A slash at the end -/

/-- The path ends with a slash. -/
def endsWithSlash (path : List α) : Bool := (path.getLast?.map isSlash).getD false

/-- How a path ends is a matter of its last character. -/
theorem endsWithSlash_append_cons (front : List α) (x : α) (back : List α) :
    endsWithSlash (front ++ x :: back) = endsWithSlash (x :: back) := by
  rw [endsWithSlash, endsWithSlash, List.getLast?_append_of_ne_nil _ (List.cons_ne_nil x back)]

/-- A path that is empty becomes a slash, which it ends with. -/
theorem endsWithSlash_rooted (path : List α) :
    endsWithSlash (rooted path) = (path.isEmpty || endsWithSlash path) := by
  cases path with
  | nil => exact isSlash_slash
  | cons x path =>
    unfold rooted
    split
    · rfl
    · exact endsWithSlash_append_cons [HasSlash.slash] x path

/-- Behind a slash, a path without those in front of it ends as it does with them. -/
theorem endsWithSlash_slash_dropWhile (path : List α) :
    endsWithSlash (HasSlash.slash :: path.dropWhile isSlash) =
      (path.isEmpty || endsWithSlash path) := by
  induction path with
  | nil => exact isSlash_slash
  | cons x path ih =>
    by_cases hx : isSlash x = true
    · rw [List.dropWhile_cons_of_pos hx, ih]
      cases path with
      | nil => exact hx.symm
      | cons y path => exact (endsWithSlash_append_cons [x] y path).symm
    · rw [List.dropWhile_cons_of_neg hx]
      exact endsWithSlash_append_cons [HasSlash.slash] x path

/-- The second path ends the whole one; without it the slash between them does. -/
theorem endsWithSlash_glue (first second : List α) :
    endsWithSlash (glue first second) = (second.isEmpty || endsWithSlash second) := by
  have hne : ((first.reverse.dropWhile isSlash).reverse ++
      HasSlash.slash :: second.dropWhile isSlash).isEmpty = false := by
    simp
  rw [glue, endsWithSlash_rooted, hne, Bool.false_or, endsWithSlash_append_cons,
    endsWithSlash_slash_dropWhile]

/-- The last of two parts that is not empty. -/
def lastPart (first second : List α) : List α := if second.isEmpty then first else second

theorem endsWithSlash_underRouter (base template : List α) :
    endsWithSlash (underRouter base template) =
      ((lastPart base template).isEmpty || endsWithSlash (lastPart base template)) := by
  unfold underRouter lastPart
  split
  next hbase =>
    rw [endsWithSlash_rooted, List.isEmpty_iff.mp hbase]
    split
    next h => rw [List.isEmpty_iff.mp h]
    next => rfl
  next =>
    split
    · exact endsWithSlash_rooted base
    · exact endsWithSlash_glue base template

/-- **Nothing happens to the parts of a path where it is joined.** A part that is not given counts
as an empty one. Under a controller, the path starts with a slash and has the parts of the route
alone if that starts with a slash, and else those of the template and of the route. Under a router,
it starts with a slash and always has the parts of both, and it ends with a slash if and only if the
last part that is not empty does, or there is none. -/
theorem joined_paths (first second : Option (List α)) :
    (startsWithSlash (underController (first.getD []) (second.getD [])) = true ∧
      slashParts (underController (first.getD []) (second.getD [])) =
        if startsWithSlash (second.getD []) then slashParts (second.getD [])
        else slashParts (first.getD []) ++ slashParts (second.getD [])) ∧
    startsWithSlash (underRouter (first.getD []) (second.getD [])) = true ∧
      slashParts (underRouter (first.getD []) (second.getD [])) =
        slashParts (first.getD []) ++ slashParts (second.getD []) ∧
      endsWithSlash (underRouter (first.getD []) (second.getD [])) =
        ((lastPart (first.getD []) (second.getD [])).isEmpty ||
          endsWithSlash (lastPart (first.getD []) (second.getD []))) :=
  ⟨⟨startsWithSlash_underController _ _, slashParts_underController _ _⟩,
    startsWithSlash_underRouter _ _, slashParts_underRouter _ _, endsWithSlash_underRouter _ _⟩

/-- Slashes on both sides of the joint become one, and one at the end stays. -/
example : underRouter "v1//".toList "//users/".toList = "/v1/users/".toList := by decide

end RouteAtlas
