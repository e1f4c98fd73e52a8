import RouteAtlas.Number.Binary64
import RouteAtlas.Text.CodeText

/-!
# Document values

The values of a JSON document. Numbers without fraction and exponent are integers of any size, the
others binary floating-point numbers. Strings are sequences of code points, since an escape can name
half of a surrogate pair. An object is a list of fields in the order in which their keys first
appeared; `insertField` keeps its keys distinct.

Messages show values in a notation of their own (`quoted`): strings between single quotes, `None`
for what is null, `True` and `False` with capitals.
-/

namespace RouteAtlas

/-- A value of a JSON document. -/
inductive Json where
  | null
  | bool (b : Bool)
  | int (n : Int)
  | float (x : Binary64)
  | str (s : CodeText)
  | arr (items : List Json)
  | obj (fields : List (CodeText × Json))

namespace Json

/-- A text as a document value. -/
def text (s : Text) : Json := .str (.ofText s)

/-- A string literal as a document value. -/
def string (s : String) : Json := .str (.ofString s)

/-- An object with the given fields. -/
def fields (rows : List (String × Json)) : Json :=
  .obj (rows.map fun (key, value) => (CodeText.ofString key, value))

/-- Gives a key a value: in its old place if the key is there already, at the end otherwise. -/
def insertField (key : CodeText) (value : Json) :
    List (CodeText × Json) → List (CodeText × Json)
  | [] => [(key, value)]
  | (k, v) :: rest =>
    if k = key then (k, value) :: rest else (k, v) :: insertField key value rest

/-- The value of a key among fields. -/
def lookupField (key : CodeText) : List (CodeText × Json) → Option Json
  | [] => none
  | (k, v) :: rest => if k = key then some v else lookupField key rest

/-- The value of a key of an object. Anything else has no keys. -/
def get? (key : String) : Json → Option Json
  | .obj fields => lookupField (CodeText.ofString key) fields
  | _ => none

end Json

end RouteAtlas

namespace RouteAtlas.Json

mutual

/-- A value as a message shows it. -/
def quoted : Json → Text
  | .null => "None".toList
  | .bool b => (if b then "True" else "False").toList
  | .int n => Text.ofInt n
  | .float x => x.text
  | .str s => Text.quotedCode s
  | .arr items => '[' :: Text.joinWith ", ".toList (quotedItems items) ++ [']']
  | .obj fields => '{' :: Text.joinWith ", ".toList (quotedFields fields) ++ ['}']

/-- The items of a list as a message shows them. -/
def quotedItems : List Json → List Text
  | [] => []
  | item :: items => quoted item :: quotedItems items

/-- The fields of an object as a message shows them. -/
def quotedFields : List (CodeText × Json) → List Text
  | [] => []
  | (key, value) :: fields =>
    (Text.quotedCode key ++ ": ".toList ++ quoted value) :: quotedFields fields

end

end RouteAtlas.Json
