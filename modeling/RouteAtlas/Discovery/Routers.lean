import RouteAtlas.Discovery.Source
import RouteAtlas.Routers.Routes

/-!
# Scanning for routers

Every script of the repository is read by itself. One that cannot be read is reported and passed
over, unless the reader gets to the end of its means in it (`Scan.endure`); that ends the scan. The
routes of all routers come first, then all endpoints, both in the order of the scripts.

Before a script is read it is found out how its path is called from the root. What goes wrong there
is no matter of the script, and ends the scan as well.
-/

namespace RouteAtlas.Routers

/-- The endings of scripts. -/
def scripts : Source.Wanted := { suffixes := [".py".toList] }

/-- What is said of a script that has no routes. -/
def Fault.message : Fault → Text
  | .script fault => fault.message?.getD "invalid syntax".toList
  | .nameless fault => fault.message

/-- The routes of a script, or why there are none. -/
def routesOfFile (tree : FileTree) (path : Path) (file : Text) :
    Except Text (List Discovered) := do
  let source ← (Source.read tree path).mapError DiscoveryFault.message
  (routesIn source file).mapError Fault.message

/-- A number of routes in a message. -/
def countText (n : Nat) : Text := Text.ofNat n ++ " route(s)".toList

/-- Reads a script to its end, if it can be read at all. -/
def readThrough (tree : FileTree) (path : Path) : Scan Unit :=
  match Source.read tree path with
  | .ok source => Scan.endure source
  | .error _ => pure ()

/-- Scans one script. -/
def scanFile (tree : FileTree) (root path : Path) : Scan (List Discovered) := do
  Scan.check
  let file ← Scan.ofExcept (Source.relative tree root path)
  readThrough tree path
  match routesOfFile tree path file with
  | .error message =>
    Scan.report ("  Skipped ".toList ++ file ++ ": ".toList ++ message)
    pure []
  | .ok [] => pure []
  | .ok routes =>
    let endpoints := routes.countP (·.kind == .endpoint)
    Scan.report ("  ".toList ++ file ++ ": ".toList ++ countText endpoints)
    pure routes

/-- Scans all scripts below a directory. -/
def discover (tree : FileTree) (root : Path) : Scan (List Discovered) := do
  Scan.report "Discovering Python web routes...".toList
  let routes := (← Source.forEach tree root scripts (scanFile tree root)).flatten
  Scan.report ("Discovered ".toList ++ countText routes.length ++ ['.'])
  pure (routes.filter (·.kind == .controller) ++ routes.filter (·.kind == .endpoint))

end RouteAtlas.Routers
