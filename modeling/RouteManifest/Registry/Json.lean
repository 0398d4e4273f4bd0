import RouteManifest.MatchTarget.Json
import RouteManifest.Pattern.Json
import RouteManifest.Registry

/-!
The registry as JSON: an array with an object for each record. A record without a target has no
member for it.
-/

namespace RouteManifest

open Json (Value)

def Record.toJson (record : Record) : Value :=
  .object ([("match", .array (record.patterns.map Pattern.toJson)),
    ("path", .string record.path)] ++
    (record.matchTarget.map fun target => ("matchTarget", target.toJson)).toList)

def Registry.toJson (registry : Registry) : Value := .array (registry.map Record.toJson)

end RouteManifest
