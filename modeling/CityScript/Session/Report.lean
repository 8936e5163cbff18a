/-
Reports as documents. The members of every object are in the order of their keys.
-/
import CityScript.Session.Basic

set_option autoImplicit false

namespace CityScript

/-- A problem as a document. -/
def Diagnostic.toJson (d : Diagnostic) : Json :=
  .object [
    ("kind", .ofString d.rejection.kind),
    ("line", .ofNat d.line),
    ("message", .ofString d.message)]

/-- The result of a call as a document: the call, and its value or its error. -/
def CallResult.toJson (r : CallResult) : Json :=
  let error := match r.outcome with
    | .ok _ => []
    | .error e => [("error", .ofString e.message)]
  let value := match r.outcome with
    | .ok outcome => [("value", outcome.toJson)]
    | .error _ => []
  .object <|
    [("args", .list (r.call.arguments.map Value.toJson))] ++ error ++
    [("line", .ofNat r.call.line),
      ("ok", .bool r.isOk),
      ("operation", .ofString r.call.operation),
      ("original", .ofString (Text.trimmed r.call.written))] ++ value

namespace Report

/-- The members of a report, with a map if there is one to show. -/
def members (r : Report) (map : Option String) : List (String × Json) :=
  [("diagnostics", .list (r.diagnostics.map Diagnostic.toJson))] ++
  (map.map fun text => ("map", .ofString text)).toList ++
  [("normalized_code", .list (r.normalized.map Json.ofString)),
    ("results", .list (r.results.map CallResult.toJson)),
    ("success_count", .ofNat r.successes)]

/-- A report as a document. -/
def toJson (r : Report) : Json := .object (r.members none)

end Report

end CityScript
