import ErrorOrigins.Source.Position

namespace ErrorOrigins.Go

-- Where a node starts, counted from zero, and the bytes it covers.
structure Extent where
  row    : Nat
  column : Nat
  first  : Nat
  stop   : Nat
  deriving DecidableEq, Repr, Inhabited

def Extent.position (e : Extent) : Position :=
  { line := .ofNat (e.row + 1), column := .ofNat (e.column + 1) }

-- From the start of one part to the end of another.
def Extent.upTo (e e' : Extent) : Extent :=
  { e with stop := e'.stop }

inductive Tree
  | node (kind : String) (role : Option String) (extent : Extent) (children : List Tree)
  deriving Repr, Inhabited

namespace Tree

def kind : Tree → String
  | node kind _ _ _ => kind

def role : Tree → Option String
  | node _ role _ _ => role

def extent : Tree → Extent
  | node _ _ extent _ => extent

def children : Tree → List Tree
  | node _ _ _ children => children

def position (t : Tree) : Position :=
  t.extent.position

def withRole (role : String) : Tree → Tree
  | node kind _ extent children => node kind (some role) extent children

def withoutRole : Tree → Tree
  | node kind _ extent children => node kind none extent children

def withKind (kind : String) : Tree → Tree
  | node _ role extent children => node kind role extent children

def isComment (t : Tree) : Bool :=
  t.kind == "comment"

-- The parts that matter: comments may stand anywhere and say nothing.
def parts (t : Tree) : List Tree :=
  t.children.filter (!·.isComment)

-- The first part that plays the given role.
def part? (t : Tree) (role : String) : Option Tree :=
  t.children.find? (·.role == some role)

-- All parts that play the given role.
def partsAs (t : Tree) (role : String) : List Tree :=
  t.children.filter (·.role == some role)

end Tree
end ErrorOrigins.Go
