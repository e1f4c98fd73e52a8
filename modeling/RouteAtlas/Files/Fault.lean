import RouteAtlas.Path

/-!
# What goes wrong with files

The reasons for which something cannot be done with a path, each with a number and a phrase. A
message names the path, and for a renaming also the new name.

Some reasons only say that nothing can stand at a path (`FileReason.meansAbsent`). Whoever asks what
is there gets the answer that nothing is; whoever wants to do something there gets the reason. A
name or a path that is too long is no such reason, and a look-up on the way to it fails.
-/

namespace RouteAtlas

/-- Why something cannot be done with a path. -/
inductive FileReason where
  | missing
  | busy
  | existing
  | notDirectory
  | isDirectory
  | nameTooLong
  | tooManyLinks
  /-- A name holds the character that ends names in a file tree. -/
  | nullCharacter
  deriving DecidableEq, Repr

namespace FileReason

/-- The number and the phrase of a reason; one without a number is a phrase alone. -/
def words : FileReason → Option Nat × String
  | .missing => (some 2, "No such file or directory")
  | .busy => (some 16, "Device or resource busy")
  | .existing => (some 17, "File exists")
  | .notDirectory => (some 20, "Not a directory")
  | .isDirectory => (some 21, "Is a directory")
  | .nameTooLong => (some 36, "File name too long")
  | .tooManyLinks => (some 40, "Too many levels of symbolic links")
  | .nullCharacter => (none, "embedded null byte")

/-- Nothing can stand at such a path, so that asking what stands there is no fault. -/
def meansAbsent : FileReason → Bool
  | .missing | .notDirectory | .tooManyLinks | .nullCharacter => true
  | _ => false

end FileReason

/-- Something that cannot be done: with which path, and under which new name. -/
structure FileFault where
  reason : FileReason
  path : Path
  renamed : Option Path := none
  deriving DecidableEq, Repr

/-- What is said of something that cannot be done. -/
def FileFault.message (fault : FileFault) : Text :=
  match fault.reason.words with
  | (none, phrase) => phrase.toList
  | (some number, phrase) =>
    let renamed := match fault.renamed with
      | none => []
      | some path => " -> ".toList ++ Text.quoted path.text
    "[Errno ".toList ++ Text.ofNat number ++ "] ".toList ++ phrase.toList ++ ": ".toList
      ++ Text.quoted fault.path.text ++ renamed

end RouteAtlas
