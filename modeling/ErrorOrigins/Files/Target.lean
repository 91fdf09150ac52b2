import ErrorOrigins.FileSystem

namespace ErrorOrigins

inductive Target
  -- The packages in a directory and below it.
  | tree (root : Path)
  | dir (path : Path)
  | file (path : Path)
  | package (name : String)
  deriving DecidableEq, Repr, Inhabited

namespace Target

-- The ending that asks for a whole tree.
def treeEnding : String := "/..."

-- The target when none is given.
def everything : String := "./..."

-- The directory of a text that asks for a tree.
def treeRoot? (text : String) : Option Path :=
  (treeEnding.toList.isSuffixOf? text.toList).map fun root => ⟨String.ofList root⟩

-- What a text means depends on what is there: what names no file names a package.
def ofText (fs : FileSystem) (text : String) : Target :=
  match (treeRoot? text).filter (fs.isDir ·) with
  | some root => .tree root
  | none      =>
    if fs.isDir ⟨text⟩ then .dir ⟨text⟩
    else if fs.has ⟨text⟩ then .file ⟨text⟩
    else .package text

def file? : Target → Option Path
  | file path => some path
  | _         => none

def package? : Target → Option String
  | package name => some name
  | _            => none

end Target
end ErrorOrigins
