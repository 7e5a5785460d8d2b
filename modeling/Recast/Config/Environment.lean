import Recast.Config.Basic
import Recast.Config.EnvFile
import Recast.Number.Width

/-!
# Configuration from the environment

Each setting has a variable of its own and a default text for when the variable is not set. The texts are
read in a fixed order, and the first that cannot be read is the error. Variables that are set win over
those of an environment file.
-/

namespace Recast

namespace Config

/-- Decimal digits read on from a number, as long as it fits thirty-two bits. -/
def readDigits (value : Nat) : List Char → Except String Nat
  | [] => .ok value
  | c :: rest =>
    if c.isDigit then
      let grown := 10 * value + (c.toNat - '0'.toNat)
      if fitsNat32 grown then readDigits grown rest
      else .error "number too large to fit in target type"
    else .error "invalid digit found in string"

/-- A natural number of thirty-two bits from its digits, behind an optional plus sign. -/
def readNatural (text : String) : Except String Nat :=
  match text.toList with
  | [] => .error "cannot parse integer from empty string"
  | ['+'] => .error "invalid digit found in string"
  | '+' :: digits => readDigits 0 digits
  | digits => readDigits 0 digits

/-- A truth value from its name. -/
def readBool (text : String) : Except String Bool :=
  if text = "true" then .ok true
  else if text = "false" then .ok false
  else .error "provided string was not `true` or `false`"

/-- The value of a variable, or of the default text where it is not set. -/
def readVariable {α : Type} (environment : List (String × String)) (name default : String)
    (read : String → Except String α) : Except ConfigError α :=
  let text := (environment.lookup name).getD default
  (read text).mapError fun reason ↦ .unreadable name text (some reason)

/-- The configuration that variables describe. -/
def ofVariables (environment : List (String × String)) : Except ConfigError Config := do
  let config : Config := {
    collectionDepth := ← readVariable environment "SHAPEPROJ_COLLECTION_DEPTH" "1" readNatural
    collectionElementDepth :=
      ← readVariable environment "SHAPEPROJ_COLLECTION_ELEMENT_DEPTH" "3" readNatural
    maxNestedDepth := ← readVariable environment "SHAPEPROJ_MAX_NESTED_DEPTH" "2" readNatural
    hardDepthLimit := ← readVariable environment "SHAPEPROJ_HARD_DEPTH_LIMIT" "16" readNatural
    planCacheEnabled := ← readVariable environment "SHAPEPROJ_PLAN_CACHE_ENABLED" "true" readBool }
  config.check

/-- The configuration of an environment and the text of an environment file, if there is one. -/
def ofEnvironment (environment : List (String × String)) (file : Option String) :
    Except ConfigError Config :=
  ofVariables (match file with
    | none => environment
    | some text => EnvFile.load text environment)

end Config

end Recast
