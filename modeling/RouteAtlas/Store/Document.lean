import RouteAtlas.Files.Write
import RouteAtlas.Json.Printer
import RouteAtlas.Json.Reader
import RouteAtlas.Text.Blank

/-!
# Documents in files

A document is kept in a file of its own, in UTF-8, followed by a line feed. What goes wrong is
reported together with the path of the file, except for two things that concern no file in
particular: a path that cannot even be looked up, and a document beyond the limits of the reader or
nested too deep to be written.

A document is encoded piece by piece as it is printed. The first piece that cannot be encoded ends
the writing, when the temporary file is there already; `Files.replace` removes it again. What a
document comes to in bytes does not depend on the tree (`bytesOf`).
-/

namespace RouteAtlas.DocumentFile

/-- Why a document was not read. -/
inductive ReadFault where
  | absent (path : Path)
  | unreadable (path : Path) (fault : FileFault)
  | undecodable (path : Path) (fault : Utf8.DecodeFault)
  | malformed (path : Path) (text : Text) (fault : Json.ReadFault)
  /-- The path cannot be looked up. -/
  | unlocatable (fault : FileFault)
  /-- The document is nested too deep, or one of its integers is too long. -/
  | beyondLimits (text : Text) (fault : Json.ReadFault)

/-- The fault says something of the file. -/
def ReadFault.isOfFile : ReadFault → Bool
  | .unlocatable _ | .beyondLimits .. => false
  | _ => true

/-- What is said of a document that was not read. -/
def ReadFault.message : ReadFault → Text
  | .absent path => "File not found: ".toList ++ path.text
  | .unreadable path fault => "Failed to read ".toList ++ path.text ++ ": ".toList ++ fault.message
  | .undecodable path fault =>
    "Failed to read ".toList ++ path.text ++ ": ".toList ++ fault.message
  | .malformed path text fault =>
    "Invalid JSON in ".toList ++ path.text ++ ": ".toList ++ fault.message text
  | .unlocatable fault => fault.message
  | .beyondLimits text fault => fault.message text

/-- The document that the bytes of a file spell. -/
def ofBytes (path : Path) (bytes : Bytes) : Except ReadFault Json := do
  let text ← (Utf8.decode bytes).mapError (.undecodable path)
  let text := Text.unifyNewlines text
  (Json.read text).mapError fun fault =>
    match fault with
    | .tooDeep _ | .tooManyDigits _ => .beyondLimits text fault
    | _ => .malformed path text fault

/-- The document in a file. -/
def read (tree : FileTree) (path : Path) : Except ReadFault Json := do
  if (← (tree.status? path).mapError .unlocatable).isNone then throw (.absent path)
  ofBytes path (← (Files.read tree path).mapError (.unreadable path))

/-- Why a document was not written. -/
inductive WriteFault where
  | files (fault : FileFault)
  | unencodable (fault : Utf8.EncodeFault)
  /-- An integer has more digits than a document may hold. -/
  | tooManyDigits
  /-- The document is nested too deep. -/
  | tooDeep
  deriving DecidableEq, Repr

/-- The fault says something of the file. -/
def WriteFault.isOfFile : WriteFault → Bool
  | .tooDeep => false
  | _ => true

/-- What is said of a document that was not written to a file. -/
def WriteFault.message (path : Path) (fault : WriteFault) : Text :=
  let failed := "Failed to write ".toList ++ path.text ++ ": ".toList
  match fault with
  | .files fault => failed ++ fault.message
  | .unencodable fault => failed ++ fault.message
  | .tooManyDigits =>
    failed ++ "Exceeds the limit (4300 digits) for integer string conversion".toList
      ++ "; use sys.set_int_max_str_digits() to increase the limit".toList
  | .tooDeep => "maximum recursion depth exceeded while calling a Python object".toList

/-- The bytes of a piece of a document. -/
def bytesOfPiece : Json.Piece → Except WriteFault Bytes
  | .text s => (Utf8.encodeCode s).mapError .unencodable
  | .integer lead n =>
    if Json.digitLimit < (Text.ofNat n.natAbs).length then .error .tooManyDigits
    else .ok (Utf8.encode (lead ++ Text.ofInt n))
  | .nested level => if Json.nestingLimit < level then .error .tooDeep else .ok []

/-- The bytes of the file of a document. -/
def bytesOf (layout : Json.Layout) (value : Json) : Except WriteFault Bytes := do
  let pieces ← (Json.printed layout value ++ [Json.Piece.text (.ofString "\n")]).mapM bytesOfPiece
  pure pieces.flatten

/-- Puts a document into a file, instead of what was there. -/
def write (layout : Json.Layout) (path : Path) (value : Json) : Filing WriteFault Unit :=
  Files.replace .files path (bytesOf layout value)

end RouteAtlas.DocumentFile
