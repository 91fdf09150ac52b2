import ErrorOrigins.Source.Position

namespace ErrorOrigins

inductive LiteralKind
  | int | float | imaginary | char | string
  deriving DecidableEq, Repr, Inhabited

inductive Node
  | ret (position : Position) (results : List Node)
  | call (position : Position) (callee : Node) (args : List Node)
  | selector (position : Position) (operand : Node) (member : String)
  | ident (position : Position) (name : String)
  | literal (position : Position) (kind : LiteralKind) (text : String)
  | other (position : Position) (kind : String) (children : List Node)
  deriving Repr, Inhabited

namespace Node

def position : Node → Position
  | ret p _ | call p _ _ | selector p _ _ | ident p _ | literal p _ _ | other p _ _ => p

-- The direct parts of a node: a call's callee stands before its arguments.
def children : Node → List Node
  | ret _ results        => results
  | call _ callee args   => callee :: args
  | selector _ operand _ => [operand]
  | ident _ _            => []
  | literal _ _ _        => []
  | other _ _ children   => children

mutual

-- The number of nodes in a node, itself included.
def size : Node → Nat
  | ret _ results        => sizes results + 1
  | call _ callee args   => callee.size + sizes args + 1
  | selector _ operand _ => operand.size + 1
  | ident _ _            => 1
  | literal _ _ _        => 1
  | other _ _ children   => sizes children + 1

def sizes : List Node → Nat
  | []      => 0
  | n :: ns => n.size + sizes ns

end

theorem size_eq (n : Node) : n.size = sizes n.children + 1 := by
  cases n <;> simp [size, children, sizes]

theorem sizes_append (ns ms : List Node) : sizes (ns ++ ms) = sizes ns + sizes ms := by
  induction ns with
  | nil => simp [sizes]
  | cons n ns ih => simp [sizes, ih]; omega

-- The parts of a node that a walk goes on to, when `descend` decides.
def within (descend : Node → Bool) (n : Node) : List Node :=
  if descend n then n.children else []

theorem sizes_within_lt (descend : Node → Bool) (n : Node) (rest : List Node) :
    sizes (n.within descend ++ rest) < sizes (n :: rest) := by
  have := n.size_eq
  cases h : descend n <;> simp [within, h, sizes, sizes_append] <;> omega

-- All nodes of a forest in pre-order. A node that `descend` refuses is listed, and nothing below it.
def walk (descend : Node → Bool) (forest : List Node) : List Node :=
  (go forest []).reverse
where
  -- The nodes still to visit stand in a list, so that deep trees need no deep recursion.
  go : List Node → List Node → List Node
    | [], visited        => visited
    | n :: rest, visited => go (n.within descend ++ rest) (n :: visited)
  termination_by forest _ => sizes forest
  decreasing_by exact sizes_within_lt descend n rest

theorem walk.go_append (descend : Node → Bool) (forest visited earlier : List Node) :
    walk.go descend forest (visited ++ earlier) = walk.go descend forest visited ++ earlier := by
  fun_induction walk.go descend forest visited with
  | case1 visited => simp [walk.go]
  | case2 n rest visited ih => rw [walk.go]; exact ih

@[simp]
theorem walk_nil (descend : Node → Bool) : walk descend [] = [] := by
  simp [walk, walk.go]

theorem walk_cons (descend : Node → Bool) (n : Node) (rest : List Node) :
    walk descend (n :: rest) = n :: walk descend (n.within descend ++ rest) := by
  have := walk.go_append descend (n.within descend ++ rest) [] [n]
  simp_all [walk, walk.go]

-- The whole forest in pre-order.
def preorder (forest : List Node) : List Node :=
  walk (fun _ => true) forest

end Node
end ErrorOrigins
