import RouteAtlas.Search.Outcome

/-!
# Printing routes

A route takes one line: its method, its path and where it is declared, in columns. In the results of
a search, long paths are cut and end in an ellipsis; a listing shows them whole.

The columns are as wide as what stands in them, but methods and paths have a least width. Cutting is
defined for every width, also for one that has no room for the ellipsis: characters are then taken
away from the end.
-/

namespace RouteAtlas

/-- The first `n` characters; when `n` is negative, all but the last `-n`. -/
def Text.takeSigned (n : Int) (s : Text) : Text :=
  match n with
  | .ofNat k => s.take k
  | .negSucc k => s.take (s.length - (k + 1))

/-- The dots that stand for the cut part of a text. -/
def ellipsis : Text := "...".toList

/-- A text cut down to a width, the dots included. -/
def shortened (width : Int) (s : Text) : Text :=
  if (s.length : Int) ≤ width then s else Text.takeSigned (width - ellipsis.length) s ++ ellipsis

/-- The greatest of some widths, but at least `least`. -/
def columnWidth (least : Nat) (widths : List Nat) : Nat := widths.foldl max least

/-- The width of the column for methods. -/
def methodColumn (routes : List Record) : Nat :=
  columnWidth 6 (routes.map fun r => r.methodName.length)

/-- The line of a route, with a gap behind the method. -/
def routeLine (methodWidth pathWidth : Nat) (gap : Text) (path : Text) (r : Record) : Text :=
  Text.padRight methodWidth r.methodName ++ gap ++ Text.padRight pathWidth path ++ "  ".toList
    ++ r.source.text

/-- The lines of a search, with paths of at most the given width. -/
def searchLines (o : Outcome) (width : Int) : List Text :=
  let routes := o.results.map Hit.route
  let longest := columnWidth 0 (routes.map fun r => r.path.length)
  let column := (max 4 (min width longest)).toNat
  routes.map fun r => routeLine (methodColumn routes) column " ".toList (shortened width r.path) r

/-- The lines of a listing. -/
def listLines (routes : List Record) : List Text :=
  let column := columnWidth 4 (routes.map fun r => r.path.length)
  routes.map fun r => routeLine (methodColumn routes) column "  ".toList r.path r

/-- What stands below the lines of a search. -/
def searchFooter (o : Outcome) : Text :=
  if o.hasMore then
    "Showing ".toList ++ Text.ofNat o.shown ++ " of ".toList ++ Text.ofNat o.total
      ++ " result(s) (use --limit to see more)".toList
  else "Found ".toList ++ Text.ofNat o.shown ++ " result(s)".toList

end RouteAtlas
