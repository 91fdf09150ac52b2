import ErrorOrigins.Audit.Event

namespace ErrorOrigins

structure Diagnostic where
  location : Location
  message  : String
  deriving DecidableEq, Repr, Inhabited

namespace Diagnostic

def text (d : Diagnostic) : String :=
  d.location.text ++ ": " ++ d.message

def header (scope : Scope) : Diagnostic :=
  { location := scope.location, message := " -- " ++ scope.function.name ++ "() ---" }

def ofSite? (scope : Scope) (site : ReturnSite) : Option Diagnostic :=
  if site.kind = .none then none else
    site.exprPosition.map fun p =>
      { location := scope.locate p, message := "-- " ++ site.descriptor ++ " --" }

def ofEvent? : Event → Option Diagnostic
  | .enter scope     => some (header scope)
  | .site scope site => ofSite? scope site
  | .leave _         => none

end Diagnostic

def SourceTree.diagnostics (t : SourceTree) : List Diagnostic :=
  t.events.filterMap Diagnostic.ofEvent?

def diagnostics (trees : List SourceTree) : List Diagnostic :=
  trees.flatMap (·.diagnostics)

end ErrorOrigins
