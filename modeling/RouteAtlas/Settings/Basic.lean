import RouteAtlas.Document.Field
import RouteAtlas.Number.Binary64
import RouteAtlas.Path

/-!
# Settings

What can be adjusted: where the index of a repository is kept, how many results a search shows, how
wide paths are printed, and what is logged. A search shows results that score above a ratio of the
best score; the ratio is neither as small as 0 nor as large as 1. At least one result may be shown,
and printed paths have room for an ellipsis. These conditions are part of the type, and the settings
when nothing is adjusted meet them.

Settings are read from an object of fields (`Settings.ofFields`). What is not there keeps its
standard value, and fields with other names are passed over.
-/

namespace RouteAtlas

/-- The number is not 1 or more, and not 0 or less. -/
def Binary64.isProperRatio (x : Binary64) : Bool :=
  x == .nan || (x.lessThan 1 1 && x.greaterThan 0 1)

/-- Two fifths. -/
def Binary64.twoFifths : Binary64 := .ofDecimal false 4 (-1)

/-- The adjustable values. -/
structure Settings where
  indexDirectory : Text := ".apimap".toList
  indexFile : Text := "index.json".toList
  cutoffRatio : Binary64 := .twoFifths
  maxResults : Nat := 10
  pathWidth : Nat := 50
  logLevel : Text := "WARNING".toList
  logFile : Option Path := none
  cutoff_proper : cutoffRatio.isProperRatio = true
  maxResults_pos : 1 ≤ maxResults
  pathWidth_wide : 8 ≤ pathWidth

theorem Binary64.twoFifths_proper : Binary64.twoFifths.isProperRatio = true := by decide +kernel

/-- The settings when nothing is adjusted. -/
def Settings.standard : Settings where
  cutoff_proper := Binary64.twoFifths_proper
  maxResults_pos := by decide
  pathWidth_wide := by decide

/-- Where the index of a repository is kept. -/
def Settings.indexPath (s : Settings) (root : Path) : Path :=
  (root.join (Path.ofText s.indexDirectory)).join (Path.ofText s.indexFile)

end RouteAtlas

/-! ## Settings from fields -/

namespace RouteAtlas.Settings

/-- A ratio between 0 and 1, neither included. -/
def ratio (value : Json) : Checked { x : Binary64 // x.isProperRatio = true } := do
  let x ← Field.float value
  if h : x.isProperRatio = true then .ok ⟨x, h⟩
  else .fail (if x.lessThan 1 1 then .notAbove else .notBelow)

/-- A whole number from `least` on. -/
def count (least : Nat) (value : Json) : Checked { n : Nat // least ≤ n } := do
  let n ← Field.integerFrom least value
  .ok ⟨n.val.toNat, by have := n.property; omega⟩

/-- A path or nothing. -/
def optionalPath : Json → Checked (Option Path)
  | .null => .ok none
  | .str s =>
    match s.toText? with
    | some t => .ok (some (Path.ofText t))
    | none => .fail .notPath
  | _ => .fail .notPath

/-- The settings that some fields give. -/
def ofFields (fields : List (CodeText × Json)) : Checked Settings := do
  let s := standard
  let (directory, file, ratio, results, width, level, log) ←
    (Field.optional ["index_dir_name"] s.indexDirectory Field.text fields).both <|
    (Field.optional ["index_file_name"] s.indexFile Field.text fields).both <|
    (Field.optional ["adaptive_cutoff_ratio"] ⟨_, s.cutoff_proper⟩ ratio fields).both <|
    (Field.optional ["adaptive_max_results"] ⟨_, s.maxResults_pos⟩ (count 1) fields).both <|
    (Field.optional ["display_path_width"] ⟨_, s.pathWidth_wide⟩ (count 8) fields).both <|
    (Field.optional ["log_level"] s.logLevel Field.text fields).both <|
    Field.optional ["log_file"] s.logFile optionalPath fields
  .ok
    { indexDirectory := directory
      indexFile := file
      cutoffRatio := ratio.val
      maxResults := results.val
      pathWidth := width.val
      logLevel := level
      logFile := log
      cutoff_proper := ratio.property
      maxResults_pos := results.property
      pathWidth_wide := width.property }

end RouteAtlas.Settings
