import RouteAtlas.Proofs.Text.CodeText
import RouteAtlas.Proofs.Text.Numeral
import RouteAtlas.Proofs.Text.Utf8
import RouteAtlas.Route.Discovered

/-!
# What an identifier tells apart

The text behind an identifier joins its components with bars, and a path may hold bars, too, and
whatever looks like the name of a component. Still the text tells all components, as long as no
other one has a bar in it (`Identity.eq_of_text_eq`). It is taken apart from both ends: what is in
front of the path is read up to the next bar from the left, and what is behind it from the last bar
to the right, so that the path is what is left between.

Whether there is an ordinal at the right end is told by the first letter of the last component.

So routes that differ in anything, or two ordinals of one route, have the same identifier only where
the digests of different messages begin alike (`identifiers_agree_by_collision`).

That such a collision is hard to find is no theorem, and none is assumed. What is shown is that
there is no other way: of two routes with one identifier, either all components are the same, or
there are two different messages whose digests agree in the digits that are kept.
-/

namespace RouteAtlas

/-! ## Texts with marks -/

section Mark

variable {α : Type} {mark : α} {a b r s : List α}

/-- What stands in front of the first mark, and what stands behind it. -/
theorem eq_of_append_mark (ha : mark ∉ a) (hb : mark ∉ b) (h : a ++ mark :: r = b ++ mark :: s) :
    a = b ∧ r = s := by
  induction a generalizing b with
  | nil =>
    cases b with
    | nil => exact ⟨rfl, (List.cons.inj h).2⟩
    | cons y b =>
      have hmark : mark = y := (List.cons.inj h).1
      exact absurd (hmark ▸ List.mem_cons_self) hb
  | cons x a ih =>
    cases b with
    | nil =>
      have hmark : x = mark := (List.cons.inj h).1
      exact absurd (hmark ▸ List.mem_cons_self) ha
    | cons y b =>
      obtain ⟨rfl, hrest⟩ := List.cons.inj h
      rw [List.mem_cons, not_or] at ha hb
      obtain ⟨rfl, rfl⟩ := ih ha.2 hb.2 hrest
      exact ⟨rfl, rfl⟩

/-- What stands in front of the last mark, and what stands behind it. -/
theorem eq_of_append_last_mark (ha : mark ∉ a) (hb : mark ∉ b)
    (h : r ++ mark :: a = s ++ mark :: b) : r = s ∧ a = b := by
  have hreverse := congrArg List.reverse h
  rw [List.reverse_append, List.reverse_cons, List.append_assoc, List.reverse_append,
    List.reverse_cons, List.append_assoc] at hreverse
  obtain ⟨hback, hfront⟩ := eq_of_append_mark (by rwa [List.mem_reverse])
    (by rwa [List.mem_reverse]) hreverse
  exact ⟨List.reverse_injective hfront, List.reverse_injective hback⟩

end Mark

/-! ## Components -/

/-- The mark between two components. -/
def CodePoint.bar : CodePoint := .char '|'

namespace Identity

/-- A component behind its name. -/
def component (name : String) (value : Text) : CodeText := CodeText.ofText (name.toList ++ value)

theorem component_inj {name : String} {v w : Text} : component name v = component name w ↔ v = w := by
  rw [component, component, CodeText.ofText_inj, List.append_right_inj]

/-- Its name has no bar, so it has none if its value has none. -/
theorem bar_notMem_component {name : String} {value : Text} (hname : '|' ∉ name.toList)
    (hvalue : '|' ∉ value) : CodePoint.bar ∉ component name value := by
  rw [component, CodePoint.bar, CodeText.char_mem_ofText_iff, List.mem_append, not_or]
  exact ⟨hname, hvalue⟩

theorem bar_notMem_ofInt (n : Int) : '|' ∉ Text.ofInt n := by
  intro h
  rcases Text.eq_or_isAsciiDigit_of_mem_ofInt h with hminus | hdigit
  · exact absurd hminus (by decide)
  · exact absurd hdigit (by decide)

/-- No component but the path has a bar in it. -/
structure AvoidsBars (i : Identity) : Prop where
  kind : '|' ∉ i.kind
  file : '|' ∉ i.file
  method : '|' ∉ i.method
  controller : '|' ∉ i.controller
  action : '|' ∉ i.action

/-- The components from the path to the action. -/
def body (i : Identity) : CodeText :=
  (CodeText.ofString "path:" ++ i.path ++ CodePoint.bar :: component "controller:" i.controller)
    ++ CodePoint.bar :: component "action:" i.action

/-- The ordinal, which is left out if it is 0. -/
def ordinalText (i : Identity) : CodeText :=
  if i.ordinal = 0 then [] else CodePoint.bar :: component "ordinal:" (Text.ofInt i.ordinal)

/-- The text in the form in which it is read: component, bar, component. -/
theorem text_eq (i : Identity) :
    i.text = component "kind:" i.kind ++ CodePoint.bar :: (component "file:" i.file
      ++ CodePoint.bar :: (component "line:" (Text.ofInt i.line)
      ++ CodePoint.bar :: (component "method:" i.method
      ++ CodePoint.bar :: (i.body ++ i.ordinalText)))) := by
  have htext : i.text = component "kind:" i.kind ++ (CodePoint.bar :: component "file:" i.file)
      ++ (CodePoint.bar :: component "line:" (Text.ofInt i.line))
      ++ (CodePoint.bar :: component "method:" i.method)
      ++ (CodePoint.bar :: CodeText.ofString "path:" ++ i.path)
      ++ (CodePoint.bar :: component "controller:" i.controller)
      ++ (CodePoint.bar :: component "action:" i.action) ++ i.ordinalText := rfl
  rw [htext, body]
  simp only [List.append_assoc, List.cons_append]

variable {i j : Identity}

/-- What is read from the right: the action, the controller and then the path. -/
theorem body_inj (hi : i.AvoidsBars) (hj : j.AvoidsBars) (h : i.body = j.body) :
    i.path = j.path ∧ i.controller = j.controller ∧ i.action = j.action := by
  obtain ⟨hrest, haction⟩ := eq_of_append_last_mark
    (bar_notMem_component (by decide) hi.action) (bar_notMem_component (by decide) hj.action) h
  obtain ⟨hpath, hcontroller⟩ := eq_of_append_last_mark
    (bar_notMem_component (by decide) hi.controller)
    (bar_notMem_component (by decide) hj.controller) hrest
  exact ⟨List.append_cancel_left hpath, component_inj.mp hcontroller, component_inj.mp haction⟩

/-- The action at the end of a text is not taken for an ordinal. -/
theorem body_ne_append_ordinal (hi : i.AvoidsBars) (front : CodeText) (n : Int) :
    i.body ≠ front ++ CodePoint.bar :: component "ordinal:" (Text.ofInt n) := by
  intro h
  obtain ⟨-, hlast⟩ := eq_of_append_last_mark (bar_notMem_component (by decide) hi.action)
    (bar_notMem_component (by decide) (bar_notMem_ofInt n)) h
  have hletter : CodePoint.char 'a' = CodePoint.char 'o' := (List.cons.inj hlast).1
  exact absurd hletter (by decide)

/-- **Whether there is an ordinal is told**, and which one it is. -/
theorem body_append_ordinalText_inj (hi : i.AvoidsBars) (hj : j.AvoidsBars)
    (h : i.body ++ i.ordinalText = j.body ++ j.ordinalText) :
    i.body = j.body ∧ i.ordinal = j.ordinal := by
  unfold ordinalText at h
  split at h
  next hi0 =>
    split at h
    next hj0 =>
      rw [List.append_nil, List.append_nil] at h
      exact ⟨h, hi0.trans hj0.symm⟩
    next =>
      rw [List.append_nil] at h
      exact absurd h (body_ne_append_ordinal hi _ _)
  next =>
    split at h
    next =>
      rw [List.append_nil] at h
      exact absurd h.symm (body_ne_append_ordinal hj _ _)
    next =>
      -- Both have one, behind the last bar.
      obtain ⟨hbody, hordinal⟩ := eq_of_append_last_mark
        (bar_notMem_component (by decide) (bar_notMem_ofInt _))
        (bar_notMem_component (by decide) (bar_notMem_ofInt _)) h
      exact ⟨hbody, Text.ofInt_injective (component_inj.mp hordinal)⟩

/-- **The text tells all components.** -/
theorem eq_of_text_eq (hi : i.AvoidsBars) (hj : j.AvoidsBars) (h : i.text = j.text) : i = j := by
  rw [text_eq, text_eq] at h
  obtain ⟨hkind, h⟩ := eq_of_append_mark (bar_notMem_component (by decide) hi.kind)
    (bar_notMem_component (by decide) hj.kind) h
  obtain ⟨hfile, h⟩ := eq_of_append_mark (bar_notMem_component (by decide) hi.file)
    (bar_notMem_component (by decide) hj.file) h
  obtain ⟨hline, h⟩ := eq_of_append_mark (bar_notMem_component (by decide) (bar_notMem_ofInt _))
    (bar_notMem_component (by decide) (bar_notMem_ofInt _)) h
  obtain ⟨hmethod, h⟩ := eq_of_append_mark (bar_notMem_component (by decide) hi.method)
    (bar_notMem_component (by decide) hj.method) h
  obtain ⟨hbody, hordinal⟩ := body_append_ordinalText_inj hi hj h
  obtain ⟨hpath, hcontroller, haction⟩ := body_inj hi hj hbody
  rw [component_inj] at hkind hfile hline hmethod
  cases i
  cases j
  rw [Identity.mk.injEq]
  exact ⟨hkind, hfile, Text.ofInt_injective hline, hmethod, hpath, hcontroller, haction, hordinal⟩

/-- An identifier is the beginning of the digest of the text, if that can be encoded. -/
theorem identifier_eq_ok_iff {id : Text} :
    i.identifier = .ok id ↔
      ∃ bytes, Utf8.encodeCode i.text = .ok bytes ∧
        (Digest.sha256 bytes).take identifierLength = id := by
  rw [identifier]
  cases Utf8.encodeCode i.text with
  | error fault => simp [bind, Except.bind]
  | ok bytes => simp [bind, Except.bind, pure, Except.pure]

end Identity

/-! ## Identifiers -/

/-- Two different messages, the digests of which begin with the same digits. -/
def Digest.CollideOn (length : Nat) (a b : Bytes) : Prop :=
  a ≠ b ∧ (sha256 a).take length = (sha256 b).take length

/-- The texts of two identities are different messages whose digests agree as far as identifiers
go. -/
def Identity.Collide (i j : Identity) : Prop :=
  ∃ a b, Utf8.encodeCode i.text = .ok a ∧ Utf8.encodeCode j.text = .ok b ∧
    Digest.CollideOn identifierLength a b

variable {i j : Identity}

/-- **Equal identifiers** are those of equal components, or of messages that collide. -/
theorem Identity.eq_or_collide (hi : i.AvoidsBars) (hj : j.AvoidsBars) {id : Text}
    (hid : i.identifier = .ok id) (hid' : j.identifier = .ok id) : i = j ∨ i.Collide j := by
  obtain ⟨a, ha, hdigest⟩ := identifier_eq_ok_iff.mp hid
  obtain ⟨b, hb, hdigest'⟩ := identifier_eq_ok_iff.mp hid'
  by_cases hbytes : a = b
  · left
    subst hbytes
    exact eq_of_text_eq hi hj (Utf8.encodeCode_inj ha hb)
  · right
    exact ⟨a, b, ha, hb, hbytes, hdigest.trans hdigest'.symm⟩

/-- **The text behind an identifier is unambiguous.** If no component of two identities but their
paths has a bar in it, their texts are the same only if all components are. So they have the same
identifier only if they are the same, or if their texts are different messages whose digests begin
with the same digits. -/
theorem identifiers_agree_by_collision (hi : i.AvoidsBars) (hj : j.AvoidsBars) :
    (i.text = j.text ↔ i = j) ∧
      ∀ id, i.identifier = .ok id → j.identifier = .ok id → i ≠ j → i.Collide j := by
  refine ⟨⟨Identity.eq_of_text_eq hi hj, congrArg Identity.text⟩, ?_⟩
  intro id hid hid' hne
  exact (Identity.eq_or_collide hi hj hid hid').resolve_left hne

/-- A path that ends like the components behind it, with an ordinal of its own. -/
def mimic : Identity where
  kind := "endpoint".toList
  file := "a.py".toList
  line := 3
  method := "GET".toList
  path := CodeText.ofString "/pets|controller:a.r|action:all|ordinal:2"
  controller := "a.r".toList
  action := "all".toList
  ordinal := 0

/-- A path that looks like a component and an ordinal is told from them. -/
theorem identifiers_agree_by_collision_of_mimic :
    let plain := { mimic with path := CodeText.ofString "/pets", ordinal := 2 }
    (mimic.AvoidsBars ∧ plain.AvoidsBars) ∧ mimic.text ≠ plain.text := by
  intro plain
  have hmimic : mimic.AvoidsBars :=
    ⟨by decide, by decide, by decide, by decide, by decide⟩
  have hplain : plain.AvoidsBars :=
    ⟨by decide, by decide, by decide, by decide, by decide⟩
  refine ⟨⟨hmimic, hplain⟩, fun h => ?_⟩
  have heq := (identifiers_agree_by_collision hmimic hplain).1.mp h
  exact absurd (congrArg Identity.ordinal heq) (by decide)

end RouteAtlas
