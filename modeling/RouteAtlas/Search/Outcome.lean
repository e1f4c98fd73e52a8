import RouteAtlas.Search.Hit
import RouteAtlas.Settings.Basic

/-!
# Searching

A search filters the routes, turns those that match into hits, ranks them, and shows the beginning
of the ranked list: as many as it was told to show, or else those that score above a ratio of the
best score, up to a number. Ranking is by score, the highest first, then by path; hits that agree in
both keep the order of their routes.

There is one ranked list for a query (`rankedHits`), and the limit and the settings only say how
much of its beginning is shown (`shape`). A search is refused for two reasons, a limit below one and
a pattern that is none, the limit being looked at first.

A listing considers the same routes under the same filter. It asks for a part of the path and sorts
by path and method.
-/

namespace RouteAtlas

/-- How a query is understood. -/
inductive SearchMode where
  | fuzzy
  | literal
  deriving DecidableEq, Repr

/-- The tag of a mode in answers. -/
def SearchMode.tag : SearchMode → Text
  | .fuzzy => "fuzzy".toList
  | .literal => "literal".toList

/-- What is asked of a search. -/
structure Request where
  query : Text := []
  filter : Filter := {}
  mode : SearchMode := .fuzzy
  limit : Option Int := none

/-- Why a search is refused. -/
inductive SearchFault where
  | limitTooSmall (limit : Int)
  | noPattern (query : Text) (fault : Pattern.Fault)
  deriving DecidableEq, Repr

/-- What is said of a refused search. -/
def SearchFault.message : SearchFault → Text
  | .limitTooSmall limit => "limit must be greater than 0, got ".toList ++ Text.ofInt limit
  | .noPattern query fault =>
    match fault with
    | .misplaced .. | .unusable _ =>
      "Invalid pattern \x27".toList ++ query ++ "\x27: ".toList ++ fault.message query
    | _ => fault.message query

/-- The pattern itself is at fault, and the fault is reported with the pattern. -/
def SearchFault.isOfPattern : SearchFault → Bool
  | .noPattern _ (.misplaced ..) | .noPattern _ (.unusable _) => true
  | _ => false

/-- What a search answers. Its results have the ranks 1, 2, and so on. -/
structure Outcome where
  query : Text
  mode : SearchMode
  kind : KindFilter
  method : Option Text
  results : List Hit
  total : Nat

namespace Outcome

/-- How many results are shown. -/
def shown (o : Outcome) : Nat := o.results.length

/-- Some matches are not shown. -/
def hasMore (o : Outcome) : Bool := o.shown < o.total

/-- The results with their ranks. -/
def ranked (o : Outcome) : List (Nat × Hit) :=
  o.results.zipIdx.map fun (hit, place) => (place + 1, hit)

end Outcome

/-- One hit may stand before another one in a ranked list. -/
def Hit.ranksBefore (a b : Hit) : Bool :=
  b.score < a.score || (a.score == b.score && Text.le a.route.path b.route.path)

/-- Hits by score, the highest first, then by path. -/
def rank (hits : List Hit) : List Hit := hits.mergeSort Hit.ranksBefore

/-- A score is above a ratio of the best one. The product is rounded to 53 binary digits. -/
def isAboveCutoff (ratio : Binary64) (top score : Nat) : Bool :=
  match ratio.fraction? with
  | some (num, den) => decide (rounded (top * mkRat num den) < score)
  | none => false

/-- The best score among hits. -/
def topScore (hits : List Hit) : Nat := (hits.map Hit.score).foldl max 0

/-- The part of a ranked list that is shown. -/
def shape (settings : Settings) (limit : Option Nat) (ranked : List Hit) : List Hit :=
  match limit with
  | some n => ranked.take n
  | none =>
    (ranked.filter fun hit =>
      isAboveCutoff settings.cutoffRatio (topScore ranked) hit.score).take settings.maxResults

namespace Request

/-- The query, where one of blanks alone asks for nothing in particular. -/
def plainQuery (r : Request) : Text := if (Text.trim r.query).isEmpty then [] else r.query

/-- The filter: a method is only found on endpoints. -/
def plainFilter (r : Request) : Filter :=
  if r.filter.method.isEmpty then r.filter else { r.filter with kind := .only .endpoint }

/-- The number of results asked for. -/
def limit? (r : Request) : Except SearchFault (Option Nat) :=
  match r.limit with
  | none => .ok none
  | some n => if n < 1 then .error (.limitTooSmall n) else .ok (some n.toNat)

/-- What is looked for. -/
def matcher (r : Request) : Except SearchFault Matcher :=
  if r.plainQuery.isEmpty then .ok .everything
  else match r.mode with
    | .fuzzy => .ok (.fuzzy r.plainQuery)
    | .literal =>
      match Pattern.read r.plainQuery with
      | .ok pattern => .ok (.literal pattern)
      | .error fault => .error (.noPattern r.plainQuery fault)

end Request

/-- The hits of a search, ranked. -/
def rankedHits (routes : List Record) (filter : Filter) (matcher : Matcher) : List Hit :=
  rank ((filter.select routes).filterMap (Hit.find? matcher filter.kind))

/-- Searches routes. -/
def search (settings : Settings) (routes : List Record) (request : Request) :
    Except SearchFault Outcome := do
  let limit ← request.limit?
  let matcher ← request.matcher
  let filter := request.plainFilter
  let ranked := rankedHits routes filter matcher
  pure
    { query := request.plainQuery
      mode := request.mode
      kind := filter.kind
      method := if filter.method.isEmpty then none else some (Text.upper filter.method)
      results := shape settings limit ranked
      total := ranked.length }

/-- What a listing shows. -/
structure Listing where
  filter : Filter := {}
  path : Text := []

/-- One route may stand before another one in a listing. -/
def Record.listsBefore (a b : Record) : Bool :=
  if a.path = b.path then Text.le a.methodName b.methodName else Text.le a.path b.path

/-- The routes that a filter admits and whose path has a part, ignoring case, sorted by path and
then by method, those without a method first. -/
def listRoutes (routes : List Record) (listing : Listing) : List Record :=
  let needle := Text.lower listing.path
  ((listing.filter.select routes).filter fun r =>
    listing.path.isEmpty || Text.hasPart needle (Text.lower r.path)).mergeSort Record.listsBefore

end RouteAtlas
