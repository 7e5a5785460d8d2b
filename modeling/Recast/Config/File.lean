import Recast.Config.Basic
import Recast.Yaml.Decode

/-!
# Configuration from a file

A YAML mapping with all five settings.
-/

namespace Recast

namespace Config

open Yaml (Node Decoder)

/-- The configuration from its five members. -/
def ofNode (node : Node) : Decoder Config := do
  let fields ← Decoder.record ["collection_depth", "collection_element_depth", "max_nested_depth",
    "hard_depth_limit", "plan_cache_enabled"] node
  return {
    collectionDepth := ← Decoder.required fields "collection_depth" Decoder.nat32
    collectionElementDepth := ← Decoder.required fields "collection_element_depth" Decoder.nat32
    maxNestedDepth := ← Decoder.required fields "max_nested_depth" Decoder.nat32
    hardDepthLimit := ← Decoder.required fields "hard_depth_limit" Decoder.nat32
    planCacheEnabled := ← Decoder.required fields "plan_cache_enabled" Decoder.bool }

/-- The configuration of the octets of a YAML file, none if there is no such file. -/
def ofFile (contents : Option ByteArray) : Except ConfigError Config :=
  match contents.bind String.fromUTF8? with
  | none => .error (.unreadable "yaml_file" "file read failed" none)
  | some text =>
    match Yaml.decode? ofNode text with
    | none => .error (.unreadable "yaml_content" text none)
    | some config => config.check

end Config

end Recast
