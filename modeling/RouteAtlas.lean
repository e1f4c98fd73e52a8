import RouteAtlas.Log
import RouteAtlas.Main
import RouteAtlas.Proofs.Score.Tiers
import RouteAtlas.Proofs.Search.Closeness
import RouteAtlas.Proofs.Search.Coverage
import RouteAtlas.Proofs.Search.Verbatim
import RouteAtlas.Proofs.Store.Load
import RouteAtlas.Proofs.Store.Written
import RouteAtlas.Proofs.Controllers.Comment
import RouteAtlas.Proofs.Controllers.Literal
import RouteAtlas.Proofs.Command.Rediscovery
import RouteAtlas.Proofs.Document.Draft
import RouteAtlas.Proofs.Controllers.Lockstep
import RouteAtlas.Proofs.Controllers.VerbatimAttribute
import RouteAtlas.Proofs.Controllers.Places
import RouteAtlas.Proofs.Controllers.Reordered
import RouteAtlas.Proofs.Search.Display
import RouteAtlas.Proofs.Command.Reuse
import RouteAtlas.Proofs.Command.Prompt
import RouteAtlas.Proofs.Score.Position
import RouteAtlas.Proofs.Route.Identity
import RouteAtlas.Proofs.Controllers.Bodies
import RouteAtlas.Proofs.Score.Scattered
