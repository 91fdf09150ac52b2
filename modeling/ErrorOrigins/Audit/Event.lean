import ErrorOrigins.Audit.Site

namespace ErrorOrigins

-- The function that an event belongs to.
structure Scope where
  path       : Option String
  function   : FunctionDecl
  errorIndex : Nat
  deriving Repr, Inhabited

namespace Scope

def locate (s : Scope) (p : Position) : Location :=
  { file := s.path, position := p }

def location (s : Scope) : Location :=
  s.locate s.function.position

end Scope

inductive Event
  | enter (scope : Scope)
  | site (scope : Scope) (site : ReturnSite)
  | leave (scope : Scope)
  deriving Repr, Inhabited

namespace SourceTree

-- The scope of a function that returns an error.
def scope? (t : SourceTree) (f : FunctionDecl) : Option Scope :=
  f.errorIndex.map fun index => { path := t.path, function := f, errorIndex := index }

-- A function's events. One that returns no error has none.
def functionEvents (t : SourceTree) (f : FunctionDecl) : List Event :=
  match t.scope? f with
  | none       => []
  | some scope =>
    let sites := returnSites scope.errorIndex (f.body.getD [])
    Event.enter scope :: sites.map (Event.site scope) ++ [Event.leave scope]

def events (t : SourceTree) : List Event :=
  t.functions.flatMap t.functionEvents

end SourceTree
end ErrorOrigins
