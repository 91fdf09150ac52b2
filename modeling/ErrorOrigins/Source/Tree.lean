import ErrorOrigins.Source.Node

namespace ErrorOrigins

-- A result type: a plain type name, or the source text of any other type.
inductive TypeExpr
  | named (name : String)
  | other (text : String)
  deriving DecidableEq, Repr, Inhabited

-- Some results that share one type: `(a, b int)` has one field of two names.
structure ResultField where
  names : List String
  type  : TypeExpr
  deriving DecidableEq, Repr, Inhabited

-- The number of values a field stands for. A field without a name stands for one.
def ResultField.arity (f : ResultField) : Nat :=
  max 1 f.names.length

structure Signature where
  results : List ResultField
  deriving DecidableEq, Repr, Inhabited

structure FunctionDecl where
  name      : String
  position  : Position
  signature : Option Signature
  body      : Option (List Node)
  deriving Repr, Inhabited

inductive Decl
  | function (decl : FunctionDecl)
  | other (kind : String) (position : Position)
  deriving Repr, Inhabited

structure SourceTree where
  path    : Option String
  package : Option String
  decls   : List Decl
  deriving Repr, Inhabited

namespace SourceTree

def functions (t : SourceTree) : List FunctionDecl :=
  t.decls.filterMap fun
    | .function f => some f
    | .other _ _  => none

def locate (t : SourceTree) (p : Position) : Location :=
  { file := t.path, position := p }

end SourceTree
end ErrorOrigins
