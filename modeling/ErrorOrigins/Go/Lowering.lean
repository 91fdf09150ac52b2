import ErrorOrigins.Go.Tree
import ErrorOrigins.Source.Tree

namespace ErrorOrigins.Go

-- The bytes of a text from one offset to another. A range that splits a character has no text.
def sliceBytes (text : String) (first stop : Nat) : String :=
  let first : String.Pos.Raw := ⟨first⟩
  let stop : String.Pos.Raw := ⟨stop⟩
  if first ≤ stop && first.isValid text && stop.isValid text then first.extract text stop else ""

namespace Tree

-- The source text that a node covers.
def textIn (source : String) (t : Tree) : String :=
  sliceBytes source t.extent.first t.extent.stop

-- A part of a concrete node and the node it becomes.
structure Lowered where
  part : Tree
  node : Node

namespace Lowered

def find? (ls : List Lowered) (role : String) : Option Lowered :=
  List.find? (·.part.role == some role) ls

def nodes (ls : List Lowered) : List Node :=
  ls.map (·.node)

end Lowered

-- The kinds of nodes that stand for a name.
def isName (kind : String) : Bool :=
  ["identifier", "nil", "true", "false", "iota"].contains kind

def literalKind? (kind : String) : Option LiteralKind :=
  match kind with
  | "int_literal"                => some .int
  | "float_literal"              => some .float
  | "imaginary_literal"          => some .imaginary
  | "rune_literal"               => some .char
  | "interpreted_string_literal" => some .string
  | "raw_string_literal"         => some .string
  | _                            => none

-- The results of a return. They usually stand in a list of their own.
def returnResults (parts : List Lowered) : List Node :=
  match parts with
  | [l] => if l.part.kind == "expression_list" then l.node.children else [l.node]
  | _   => Lowered.nodes parts

-- Type arguments of a call are dropped.
def callNode? (position : Position) (parts : List Lowered) : Option Node := do
  let function ← Lowered.find? parts "function"
  let args := (Lowered.find? parts "arguments").map (·.node.children)
  return .call position function.node (args.getD [])

def selectorNode? (source : String) (position : Position) (parts : List Lowered) : Option Node := do
  let operand ← Lowered.find? parts "operand"
  let field ← Lowered.find? parts "field"
  return .selector position operand.node (field.part.textIn source)

-- The node that a concrete node becomes, given what its parts become.
def assemble (source : String) (t : Tree) (parts : List Lowered) : Node :=
  let other := Node.other t.position t.kind (Lowered.nodes parts)
  if t.kind == "return_statement" then .ret t.position (returnResults parts)
  else if t.kind == "call_expression" then (callNode? t.position parts).getD other
  else if t.kind == "selector_expression" then (selectorNode? source t.position parts).getD other
  else if isName t.kind then .ident t.position (t.textIn source)
  else match literalKind? t.kind with
    | some kind => .literal t.position kind (t.textIn source)
    | none      => other

mutual

def toNode (source : String) : Tree → Node
  | node kind role extent children =>
    assemble source (node kind role extent children) (toLowered source children)

-- Lowers the parts of a node. Comments become nothing.
def toLowered (source : String) : List Tree → List Lowered
  | []      => []
  | t :: ts =>
    if t.isComment then toLowered source ts
    else { part := t, node := t.toNode source } :: toLowered source ts

end

-- Lowers the parts of a node, without the node itself.
def toNodes (source : String) (t : Tree) : List Node :=
  Lowered.nodes (toLowered source t.children)

def toTypeExpr (source : String) (t : Tree) : TypeExpr :=
  if t.kind == "type_identifier" then .named (t.textIn source) else .other (t.textIn source)

-- A field of a result list. Variadic entries have none.
def toResultField? (source : String) (t : Tree) : Option ResultField := do
  if t.kind ≠ "parameter_declaration" then none
  let type ← t.part? "type"
  return { names := (t.partsAs "name").map (·.textIn source), type := type.toTypeExpr source }

def toResultFields (source : String) (t : Tree) : List ResultField :=
  if t.kind == "parameter_list" then t.parts.filterMap (·.toResultField? source)
  else [{ names := [], type := t.toTypeExpr source }]

def toFunction (source : String) (t : Tree) : FunctionDecl where
  name      := ((t.part? "name").map (·.textIn source)).getD ""
  position  := t.position
  signature := (t.part? "result").map fun r => { results := r.toResultFields source }
  body      := (t.part? "body").map (·.toNodes source)

def isFunction (t : Tree) : Bool :=
  t.kind == "function_declaration" || t.kind == "method_declaration"

def isPackageClause (t : Tree) : Bool :=
  t.kind == "package_clause"

def toDecl (source : String) (t : Tree) : Decl :=
  if t.isFunction then .function (t.toFunction source) else .other t.kind t.position

-- The name that a package clause gives.
def packageName? (source : String) (t : Tree) : Option String :=
  (t.parts.find? (·.kind == "package_identifier")).map (·.textIn source)

-- The source tree of a whole file. Of several package clauses the last one counts.
def toSourceTree (source : String) (path : Option String) (t : Tree) : SourceTree where
  path    := path
  package := (t.parts.filter (·.isPackageClause)).getLast?.bind (·.packageName? source)
  decls   := (t.parts.filter (!·.isPackageClause)).map (·.toDecl source)

end Tree
end ErrorOrigins.Go
