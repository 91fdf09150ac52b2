import ErrorOrigins.Audit.Classification

namespace ErrorOrigins

-- A return, and the expression it has in the error position, if it has one there.
structure ReturnSite where
  position     : Position
  exprPosition : Option Position
  kind         : OriginKind
  descriptor   : String
  deriving DecidableEq, Repr, Inhabited

namespace ReturnSite

def hasDescriptor (s : ReturnSite) : Bool :=
  s.descriptor != ""

-- The site of a return with the given results, for functions whose error has the given index.
def ofResults (index : Nat) (position : Position) (results : List Node) : ReturnSite :=
  match results[index]? with
  | some expr =>
    let c := Classification.ofNode expr
    { position, exprPosition := some expr.position, kind := c.kind, descriptor := c.descriptor }
  | none =>
    { position, exprPosition := none, kind := .none, descriptor := "" }

def ofNode? (index : Nat) : Node → Option ReturnSite
  | .ret position results => some (ofResults index position results)
  | _                     => none

end ReturnSite

-- The sites of all returns of a body in pre-order, also of those in function literals.
def returnSites (index : Nat) (body : List Node) : List ReturnSite :=
  (Node.preorder body).filterMap (ReturnSite.ofNode? index)

-- The descriptors of those sites that have one.
def descriptors (sites : List ReturnSite) : List String :=
  (sites.filter (·.hasDescriptor)).map (·.descriptor)

end ErrorOrigins
