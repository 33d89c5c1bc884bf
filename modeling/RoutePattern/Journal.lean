import RoutePattern.Route

/-!
# The journal of a route

Making a route from a pattern and refusing a path are worth a record each.
-/
namespace RoutePattern

/-- A record of the journal. -/
structure JournalRecord where
  logger : Text
  level : Text
  message : Text
  deriving Repr, DecidableEq

namespace JournalRecord

/-- A record of what happens to routes. -/
def ofRouting (message : Text) : JournalRecord :=
  ⟨"routeurl.routing".toList, "DEBUG".toList, message⟩

/-- A pattern has been compiled. -/
def compiled (pattern source : Text) : JournalRecord :=
  ofRouting ("Compiled ".toList ++ Text.quoted pattern ++ " to ".toList ++ Text.quoted source)

/-- A route has refused a path. -/
def rejected (route path : Text) : JournalRecord :=
  ofRouting
    ("Route ".toList ++ Text.quoted route ++ " rejected path ".toList ++ Text.quoted path)

end JournalRecord

namespace Route

/-- The records of making a route. -/
def birthRecords (route : Route) : List JournalRecord :=
  match route.source with
  | .pattern pattern => [.compiled pattern route.compiled.program.source]
  | .regex _ => []

/-- The records of asking for the parameters of a path. -/
def paramsRecords (route : Route) (path : Text) : List JournalRecord :=
  match route.params path false with
  | .error (.noMatch name path) => [.rejected name path]
  | _ => []

/-- The records of making a route and asking it for the parameters of paths. -/
def journal (route : Route) (paths : List Text) : List JournalRecord :=
  route.birthRecords ++ paths.flatMap route.paramsRecords

end Route

end RoutePattern
