import RouteAtlas.Pattern.Search
import RouteAtlas.Route.Record
import RouteAtlas.Score.Path
import RouteAtlas.Score.Word
import RouteAtlas.Search.Filter

/-!
# Hits

A route that a search finds is a hit: it carries a score and the field that earned it. A fuzzy
search scores each field by likeness and keeps the best one, earlier fields first; a literal search
gives a fixed score to the first field in which a pattern is found; an empty search finds every
route.

Whether a route is a hit depends on that route and the query alone, never on other routes or on how
many hits are shown. The order of the fields therefore has two meanings: in a fuzzy search it
settles ties, in a literal one it comes before everything else.
-/

namespace RouteAtlas

/-- The fields of a route that a search looks at. -/
inductive MatchField where
  | path
  | controller
  | action
  | method
  deriving DecidableEq, Repr

/-- The tag of a field in answers. -/
def MatchField.tag : MatchField → Text
  | .path => "path".toList
  | .controller => "controller".toList
  | .action => "action".toList
  | .method => "method".toList

/-- The value of a field, if the route has one. -/
def Record.value? (r : Record) : MatchField → Option Text
  | .path => some r.path
  | .controller => some r.controller
  | .action => r.action?
  | .method => r.method?.map Method.name

/-- A route with the score that a search gave it, and the field and value that it was given for. -/
structure Hit where
  route : Record
  score : Nat
  field : MatchField
  value : Text
  deriving DecidableEq, Repr

/-- What a search looks for. -/
inductive Matcher where
  | everything
  | fuzzy (query : Text)
  | literal (pattern : Pattern)

namespace Hit

/-- The score of every route when nothing in particular is searched for. -/
def baseScore : Nat := 100

/-- The score of a value of a field against a query. -/
def fuzzyScore (query : Text) : MatchField → Text → Nat
  | .path, value => pathScore value query
  | .controller, value => controllerScore value query
  | .action, value => wordScore value query
  | .method, value => wordScore value query

/-- The fields that a fuzzy search looks at, the most important first: action and method only if
nothing but endpoints is wanted. -/
def fuzzyFields : KindFilter → List MatchField
  | .only .endpoint => [.path, .controller, .action, .method]
  | _ => [.path, .controller]

/-- The better of two hits, the first one if they score alike. -/
def better (a b : Hit) : Hit := if a.score < b.score then b else a

/-- The hit of a field. -/
def ofField (query : Text) (r : Record) (field : MatchField) : Hit :=
  let value := (r.value? field).getD []
  ⟨r, fuzzyScore query field value, field, value⟩

/-- The best field of a route, if any of them scores. -/
def fuzzy? (kind : KindFilter) (query : Text) (r : Record) : Option Hit :=
  match (fuzzyFields kind).map (ofField query r) with
  | [] => none
  | first :: others =>
    let best := others.foldl better first
    if best.score = 0 then none else some best

/-- The fields that a literal search looks at, the most important first, with their scores. -/
def literalScores : List (MatchField × Nat) :=
  [(.path, 1000), (.method, 900), (.controller, 800), (.action, 700)]

/-- The first field in which a pattern is found. -/
def literal? (pattern : Pattern) (r : Record) : Option Hit :=
  literalScores.findSome? fun (field, score) =>
    match r.value? field with
    | none => none
    | some value => if pattern.foundIn value then some ⟨r, score, field, value⟩ else none

/-- The hit of a route. -/
def find? (matcher : Matcher) (kind : KindFilter) (r : Record) : Option Hit :=
  match matcher with
  | .everything => some ⟨r, baseScore, .path, r.path⟩
  | .fuzzy query => fuzzy? kind query r
  | .literal pattern => literal? pattern r

end Hit

end RouteAtlas
