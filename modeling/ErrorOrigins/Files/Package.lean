import ErrorOrigins.Error.Basic
import ErrorOrigins.FileSystem
import ErrorOrigins.Files.Module
import ErrorOrigins.Text.Utf8

namespace ErrorOrigins

structure Environment where
  -- Where the search for a module starts.
  cwd    : Path
  gopath : List Path
  goroot : Option Path
  deriving DecidableEq, Repr, Inhabited

namespace Environment

-- The environment that some variables describe. Without a `GOPATH` there is one in the home directory.
def ofVariables (cwd : Path) (valueOf : String → Option String) : Environment where
  cwd := cwd
  gopath :=
    match (valueOf "GOPATH").filter (· ≠ "") with
    | some list => (list.toList.splitOn ':').map fun piece => ⟨String.ofList piece⟩
    | none      => ((valueOf "HOME").map fun home => Path.join ⟨home⟩ "go").toList
  goroot := ((valueOf "GOROOT").filter (· ≠ "")).map Path.mk

-- The text of the `go.mod` file in a directory, if there is one that can be read.
def moduleText? (fs : FileSystem) (dir : Path) : Option String := do
  let bytes ← (fs.readFile (dir.join Module.fileName)).toOption
  let chars ← (Text.decodeUtf8 bytes).toOption
  return String.ofList chars

-- The nearest module at or above a directory. A `go.mod` file that declares none ends the search.
def module? (fs : FileSystem) (start : Path) : Option (Path × String) := do
  let (dir, text) ← start.ancestors.findSome? fun dir => (moduleText? fs dir).map (dir, ·)
  return (dir, ← Module.name? text)

-- Where a package of a module would be.
def placeInModule? (root : Path) (module name : String) : Option Path :=
  if name = module then some root
  else do
    let rest ← (module ++ "/").toList.isPrefixOf? name.toList
    return root.join (String.ofList rest)

-- Where a package may be, the first choice first.
def places (env : Environment) (fs : FileSystem) (name : String) : List Path :=
  let inModule := (module? fs env.cwd).bind fun (root, module) => placeInModule? root module name
  inModule.toList ++ (env.gopath ++ env.goroot.toList).map fun root => (root.join "src").join name

-- The directory of a package.
def resolve (env : Environment) (fs : FileSystem) (name : String) : Except Error Path :=
  match (env.places fs name).find? (fs.isDir ·) with
  | some dir => .ok dir
  | none     => .error ((Error.packageNotFound name).withOperation "discovery::resolve_package")

end Environment
end ErrorOrigins
