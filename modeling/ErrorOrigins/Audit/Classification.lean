import ErrorOrigins.Source.Tree

namespace ErrorOrigins

def TypeExpr.isError (t : TypeExpr) : Bool :=
  t = .named "error"

inductive ResultKind
  | error | default
  deriving DecidableEq, Repr, Inhabited

-- Scans fields for the first `error`, with the number of values that the fields before them declare.
def classifyFields (index : Nat) : List ResultField → ResultKind × Option Nat
  | []      => (.default, none)
  | f :: fs => if f.type.isError then (.error, some index) else classifyFields (index + f.arity) fs

-- Whether the results of a signature have an error among them, and the place of the first. Without a signature there
-- are no results.
def classifyResults : Option Signature → ResultKind × Option Nat
  | none   => (.default, none)
  | some s => classifyFields 0 s.results

-- The place of the first `error` among the values that a function returns.
def FunctionDecl.errorIndex (f : FunctionDecl) : Option Nat :=
  (classifyResults f.signature).2

def FunctionDecl.hasError (f : FunctionDecl) : Bool :=
  f.errorIndex.isSome

inductive OriginKind
  | call | selector | none
  deriving DecidableEq, Repr, Inhabited

-- How an expression in the error position is described. Without a description the text is empty.
structure Classification where
  kind       : OriginKind
  descriptor : String
  deriving DecidableEq, Repr, Inhabited

namespace Classification

def unknown : Classification :=
  { kind := .none, descriptor := "" }

end Classification

-- The texts of the literals among some arguments, each followed by a comma.
def literalArguments : List Node → String
  | []                        => ""
  | .literal _ _ text :: rest => text ++ "," ++ literalArguments rest
  | _ :: rest                 => literalArguments rest

-- The name under which a callee is reported: the member of a selector or a plain name.
def Node.calleeName? : Node → Option String
  | .selector _ _ member => some member
  | .ident _ name        => some name
  | _                    => none

namespace Classification

-- A sentinel such as `io.EOF` is shown like a call without arguments.
def ofNode : Node → Classification
  | .call _ callee args =>
    match callee.calleeName? with
    | some name => { kind := .call, descriptor := name ++ "(" ++ literalArguments args ++ ")" }
    | none      => unknown
  | .selector _ _ member => { kind := .selector, descriptor := member ++ "()" }
  | _ => unknown

end Classification
end ErrorOrigins
