import RouteAtlas.Backend.Registry
import RouteAtlas.Discovery.Controllers
import RouteAtlas.Discovery.Routers
import RouteAtlas.Store.Index

/-!
# Discovering and storing an index

An index is discovered by a backend and then stored. Where one is stored already it is loaded
instead, even if it turns out to be at fault: what is stored is replaced only on demand.

A discovery looks at the tree and leaves it alone; only the store changes it, once the index is
complete. So a discovery that fails or is cancelled cannot have stored anything.

What comes of all this is a `Provision`: the messages that were reported, in any case, and an index
or the fault that stood in its way. Loaded indexes may hold halves of surrogate pairs and discovered
ones do not, so an index that is discovered in place of a missing one counts as one of code points.
-/

namespace RouteAtlas

/-- The routes that a backend finds below a directory. -/
def Scanner.scan (scanner : Scanner) (tree : FileTree) (root : Path) : Scan (List Discovered) :=
  match scanner with
  | .controllers => Controllers.discover tree root
  | .routers => Routers.discover tree root
  | .idle => pure []

/-- The index of a repository, as a backend discovers it at a time. -/
def Backend.discover (b : Backend) (tree : FileTree) (root : Path) (time : Text) : Scan Index := do
  let root ← Scan.ofExcept ((tree.canonical root).mapError .looping)
  let routes ← b.scanner.scan tree root
  let project : Project := ⟨root.text, b.language, b.framework⟩
  Scan.ofExcept ((buildIndex project time routes).mapError .unbuilt)

/-- Why there is no index in the end. -/
inductive IndexFault where
  | choice (fault : ChoiceFault)
  | load (fault : LoadFault)
  | discovery (fault : DiscoveryFault)
  | save (fault : SaveFault)

/-- What is said when there is no index in the end. -/
def IndexFault.message : IndexFault → Text
  | .choice fault => fault.message
  | .load fault => fault.message
  | .discovery fault => fault.message
  | .save fault => fault.message

/-- An index, or why there is none, and what was reported on the way. -/
structure Provision (α : Type := Char) where
  messages : List Text := []
  result : Except IndexFault (Index α)

/-- The same, in code points. -/
def Provision.coded (p : Provision) : Provision CodePoint :=
  { messages := p.messages, result := p.result.map Index.coded }

namespace Store

/-- Discovers an index and stores it. Nothing is stored if the discovery fails or is cancelled. -/
def discoverAndSave (store : Store) (b : Backend) (time : Text) (cancelAfter : Option Nat := none) :
    StateM FileTree Provision := do
  let (messages, result) := (b.discover (← get) store.root time).run cancelAfter
  match result with
  | .error fault => pure ⟨messages, .error (.discovery fault)⟩
  | .ok index =>
    match ← (store.save index).run with
    | .ok () => pure ⟨messages, .ok index⟩
    | .error fault => pure ⟨messages, .error (.save fault)⟩

/-- The stored index. If there is none, one is discovered by the selected backend and stored. -/
def loadOrDiscover (store : Store) (registry : Registry) (selected : Option Backend) (time : Text) :
    StateM FileTree (Provision CodePoint) := do
  let tree ← get
  match store.isPresent tree with
  | .error fault => pure { result := .error (.load fault) }
  | .ok true => pure { result := (store.load tree).mapError .load }
  | .ok false =>
    match registry.choose [] selected with
    | .error fault => pure { result := .error (.choice fault) }
    | .ok b => Provision.coded <$> store.discoverAndSave b time

end Store

end RouteAtlas
