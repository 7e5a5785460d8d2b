import Recast.Config.Environment
import Recast.Config.File
import Recast.Instance.Apply
import Recast.Json.Reader
import Recast.Plan.Json
import Recast.Plan.Planner
import Recast.Proofs.Instance.EnumNames
import Recast.Proofs.Instance.EnumValue
import Recast.Proofs.Instance.Extension
import Recast.Proofs.Instance.Pruned
import Recast.Proofs.Instance.ResultTyping
import Recast.Proofs.Instance.SelfProjection
import Recast.Proofs.Instance.Unread
import Recast.Proofs.Json.Lexing
import Recast.Proofs.Json.Reading
import Recast.Proofs.Plan.Depth
import Recast.Proofs.Plan.MatcherHistory
import Recast.Proofs.Plan.Projectable
import Recast.Proofs.Plan.RoundTrip
import Recast.Proofs.Plan.Session
import Recast.Proofs.Plan.Visited
import Recast.Proofs.Shape.Declared
import Recast.Proofs.Shape.Lookup
import Recast.Proofs.Sql.Agreement
import Recast.Proofs.Sql.Eager
import Recast.Proofs.Sql.Guards
import Recast.Proofs.Sql.Literal
import Recast.Proofs.Sql.Names
import Recast.Proofs.Sql.Scope
import Recast.Proofs.Sql.Unambiguous
import Recast.Shape.CatalogueFile
import Recast.Sql.Select
