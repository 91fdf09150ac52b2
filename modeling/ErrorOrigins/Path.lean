import ErrorOrigins.Text.Split

namespace ErrorOrigins

structure Path where
  text : String
  deriving DecidableEq, Repr, Inhabited

namespace Path

inductive Component
  | root
  | here
  | up
  | name (name : String)
  deriving DecidableEq, Repr, Inhabited

-- A piece between slashes that says nothing.
def isVoid (piece : List Char) : Bool :=
  piece = [] || piece = ['.']

def componentOf (piece : List Char) : Component :=
  if piece = ['.', '.'] then .up else .name (String.ofList piece)

-- The component that a path starts with, if it is not a name, and what follows it.
def splitHead : List Char → Option Component × List Char
  | '/' :: rest        => (some .root, rest)
  | ['.']              => (some .here, [])
  | '.' :: '/' :: rest => (some .here, '/' :: rest)
  | text               => (none, text)

def headText : Option Component → List Char
  | some .root => ['/']
  | some .here => ['.']
  | _          => []

def components (p : Path) : List Component :=
  let (head, body) := splitHead p.text.toList
  head.toList ++ ((body.splitOn '/').filter (!isVoid ·)).map componentOf

-- The same path, maybe in another spelling.
def same (p q : Path) : Bool :=
  p.components = q.components

-- The path without its last component, in the same spelling. The root and the empty path have none.
def parent? (p : Path) : Option Path :=
  let (head, body) := splitHead p.text.toList
  match (body.splitOn '/').reverse.dropWhile isVoid with
  | _ :: pieces => some ⟨String.ofList (headText head ++ ['/'].intercalate (pieces.dropWhile isVoid).reverse)⟩
  | []          => if head = some .here then some ⟨""⟩ else none

-- The last component, if it is a name.
def fileName? (p : Path) : Option String :=
  match p.components.getLast? with
  | some (.name name) => some name
  | _                 => none

-- What follows the last dot of a name. A dot that starts the name does not count.
def nameExtension? (name : String) : Option String :=
  let reversed := name.toList.reverse
  let ending := reversed.takeWhile (· ≠ '.')
  match reversed.drop ending.length with
  | _ :: _ :: _ => some (String.ofList ending.reverse)
  | _           => none

def extension? (p : Path) : Option String :=
  p.fileName?.bind nameExtension?

-- The path itself, its parent, the parent of that and so on.
def ancestors (p : Path) : List Path :=
  p :: go p.text.length p
where
  -- A parent is shorter, so the length bounds their number.
  go : Nat → Path → List Path
    | 0, _     => []
    | n + 1, p =>
      match p.parent? with
      | none   => []
      | some q => q :: go n q

def isAbsolute (text : String) : Bool :=
  text.toList.head? = some '/'

-- What a text names from a path on. An absolute text stays as it is.
def join (p : Path) (text : String) : Path :=
  if isAbsolute text then ⟨text⟩
  else if p.text = "" || p.text.toList.getLast? = some '/' then ⟨p.text ++ text⟩
  else ⟨p.text ++ "/" ++ text⟩

end Path
end ErrorOrigins
