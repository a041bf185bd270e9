import RiskGauge.Pattern.Build

/-!
# Entry points

A declaration is probably an entry point if it is exported, if routes are registered anywhere in the
source, or if the source has a default export and the name speaks of handling requests.
-/

namespace RiskGauge.Entrypoint

open Pattern

/-- A route is registered with an application or a router. -/
def routeRegistration : Pattern :=
  all [edge, any (["app", "router"].map exactly), char '.',
    any (["get", "post", "put", "delete", "patch"].map exactly), blanks, char '(']

/-- Something is exported by default. -/
def defaultExport : Pattern :=
  all [edge, exactly "export", gap, exactly "default", edge]

/-- The name of something that handles requests. -/
def handlerName : Pattern :=
  any (["handler", "route", "loader"].map anyCase)

/-- A declaration of this name is probably an entry point of the source. -/
def isProbable (name : String) (exported : Bool) (source : List Char) : Bool :=
  exported || routeRegistration.occursIn source
    || (defaultExport.occursIn source && handlerName.occursIn name.toList)

end RiskGauge.Entrypoint
