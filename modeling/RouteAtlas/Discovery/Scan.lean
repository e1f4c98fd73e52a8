import RouteAtlas.Files.Canonical
import RouteAtlas.Index.Build

/-!
# Scans

A scan reports what it does as it goes along, and now and then it checks whether it was cancelled;
then it ends with a fault of its own. Which faults a scan recovers from is up to the scan: a part of
a repository that cannot be read is passed over (`Scan.attempt`), and everything else ends it. What
was reported until then stays reported.

Who cancels a scan is told by its messages, so it is cancelled once it has reported a certain number
of them. Of the outside world a scan also knows which scripts their reader cannot get through
(`Circumstances.exhausts`). What is proved of scans is proved for all circumstances.
-/

namespace RouteAtlas

/-- What the reader of scripts has run out of. -/
inductive Exhaustion where
  | depth
  | memory
  deriving DecidableEq, Repr

/-- Why there is no index of a repository. -/
inductive DiscoveryFault where
  /-- A directory cannot be listed. -/
  | unlisted (path : Path) (fault : FileFault)
  /-- A file cannot be read. -/
  | unread (path : Path) (fault : FileFault)
  /-- A file holds no text. -/
  | undecoded (path : Path) (fault : Utf8.DecodeFault)
  /-- An entry of a directory cannot be looked up. -/
  | unlookable (fault : FileFault)
  /-- A path has no canonical form. -/
  | looping (fault : LinkLoop)
  /-- A script cannot be read to its end. -/
  | exhausted (cause : Exhaustion)
  /-- The routes that were found make no index. -/
  | unbuilt (fault : BuildFault)
  | cancelled
  deriving DecidableEq, Repr

namespace DiscoveryFault

/-- Only a part of the repository is at fault, and the rest of it may be scanned. -/
def isPartial : DiscoveryFault → Bool
  | .unlisted .. | .unread .. | .undecoded .. => true
  | _ => false

/-- What is said of a failed scan. -/
def message : DiscoveryFault → Text
  | .unlisted path fault => "Cannot list ".toList ++ path.text ++ ": ".toList ++ fault.message
  | .unread path fault => "Cannot read ".toList ++ path.text ++ ": ".toList ++ fault.message
  | .undecoded path fault => "Cannot read ".toList ++ path.text ++ ": ".toList ++ fault.message
  | .unlookable fault => fault.message
  | .looping fault => fault.message
  | .exhausted _ => []
  | .unbuilt (.unencodable fault) => fault.message
  | .unbuilt _ => []
  | .cancelled => "Discovery cancelled".toList

end DiscoveryFault

/-- What a scan depends on besides the tree. -/
structure Circumstances where
  /-- After how many messages the scan is cancelled, if ever. -/
  cancelAfter : Option Nat := none
  /-- The sources that the reader of scripts cannot read to their end. -/
  exhausts : Text → Option Exhaustion := fun _ => none

/-- Work that depends on the circumstances and keeps the messages that were reported so far. -/
abbrev Scan := ReaderT Circumstances (ExceptT DiscoveryFault (StateM (List Text)))

namespace Scan

/-- Reports a message. -/
def report (message : Text) : Scan Unit := modify (· ++ [message])

/-- The scan was cancelled: the messages that it takes are reported. -/
def isCancelled : Scan Bool := do
  let circumstances ← read
  let reported ← get
  pure (circumstances.cancelAfter.any (· ≤ reported.length))

/-- Ends the scan if it was cancelled. -/
def check : Scan Unit := do
  if ← isCancelled then throw .cancelled

/-- Something that succeeds or fails without being noticed. -/
def ofExcept {α : Type} (result : Except DiscoveryFault α) : Scan α :=
  match result with
  | .ok value => pure value
  | .error fault => throw fault

/-- A scan of a part: a fault of that part alone becomes its result. -/
def attempt {α : Type} (scan : Scan α) : Scan (Except DiscoveryFault α) :=
  tryCatch (do pure (.ok (← scan))) fun fault =>
    if fault.isPartial then pure (.error fault) else throw fault

/-- Ends the scan if the reader of scripts cannot read a source to its end. -/
def endure (source : Text) : Scan Unit := do
  match (← read).exhausts source with
  | none => pure ()
  | some cause => throw (.exhausted cause)

/-- What comes of a scan that goes on behind messages, and all messages then. -/
def resumeIn {α : Type} (scan : Scan α) (circumstances : Circumstances) (reported : List Text) :
    Except DiscoveryFault α × List Text :=
  (ReaderT.run scan circumstances).run.run reported

/-- What comes of it if every script can be read to its end. -/
def resume {α : Type} (scan : Scan α) (cancelAfter : Option Nat) (reported : List Text) :
    Except DiscoveryFault α × List Text :=
  scan.resumeIn { cancelAfter } reported

/-- What a scan reports and results in when it is cancelled once that many messages are reported, or
never. -/
def run {α : Type} (scan : Scan α) (cancelAfter : Option Nat) :
    List Text × Except DiscoveryFault α :=
  let (result, reported) := scan.resume cancelAfter []
  (reported, result)

end Scan

end RouteAtlas
