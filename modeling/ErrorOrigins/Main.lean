import ErrorOrigins.CommandLine.Program

namespace ErrorOrigins.Main

-- The names on an absolute path.
def namesOf (text : String) : List String :=
  ((text.toList.splitOn '/').map String.ofList).filter (· ≠ "")

def textOf (names : List String) : String :=
  "/" ++ "/".intercalate names

def faultOf : IO.Error → Fault
  | .permissionDenied .. => .permissionDenied
  | e                    => { kind := .other, detail := toString e, code := none }

-- An entry with everything below it. What is neither a file, a directory nor a link is left out.
partial def read (place : IO.FS.DirEntry) : IO (Option Entry) := do
  try
    match (← place.path.symlinkMetadata).type with
    | .dir     =>
      match ← place.path.readDir.toBaseIO with
      | .error e   => return some (.dir [] (some (.closed (faultOf e))))
      | .ok listed =>
        let mut entries := #[]
        for child in listed do
          if let some entry ← read child then
            entries := entries.push (child.fileName, entry)
        return some (.dir entries.toList none)
    | .file    =>
      match ← (IO.FS.readBinFile place.path).toBaseIO with
      | .error e  => return some (.file (.error (faultOf e)))
      | .ok bytes => return some (.file (.ok bytes.toList))
    | .symlink => return some (.link (← IO.FS.realPath place.path).toString)
    | .other   => return none
  catch _ => return none

-- The place that some names lead to from the root.
def placeOf (names : List String) : IO.FS.DirEntry :=
  { root := textOf names.dropLast, fileName := names.getLastD "" }

-- The names on the way to what a path leads to, links resolved.
def realNames? (path : Path) : IO (Option (List String)) := do
  let place : IO.FS.DirEntry := { root := path.text, fileName := "" }
  if path.text ≠ "" && (← place.root.pathExists) then
    return some (namesOf (← IO.FS.realPath place.root).toString)
  else return none

-- The path without the slashes at its end.
def withoutSlashes (path : Path) : Path :=
  let text := (path.text.toList.reverse.dropWhile (· = '/')).reverse
  if text.isEmpty then path else ⟨String.ofList text⟩

-- Adds what a path leads to, and the links on the way.
def add (fs : FileSystem) (path : Path) : IO FileSystem := do
  let path := withoutSlashes path
  let mut fs := fs
  for way in path.ancestors.reverse do
    if let some real ← realNames? way then
      if let some (names, _) := (fs.resolve false way).toOption then
        if names ≠ real then
          fs := { fs with root := (Entry.link (textOf real)).put names fs.root }
      if way = path then
        if let some entry ← read (placeOf real) then
          fs := { fs with root := entry.put real fs.root }
      else if !fs.isDir way then
        fs := { fs with root := (Entry.dir [] none).put real fs.root }
  return fs

-- The files that a command line may lead to.
def gather (cwd : String) (arguments : List String) (bindings : List (String × String)) : IO FileSystem := do
  let mut fs : FileSystem := { root := .dir [] none, cwd := namesOf cwd }
  for dir in (Path.mk cwd).ancestors do
    fs ← add fs (dir.join Module.fileName)
  let targets :=
    match Request.ofArguments? arguments with
    | some (.run o) => if o.targets.isEmpty then [Target.everything] else o.targets
    | _             => []
  for target in targets do
    fs ← add fs ((Target.treeRoot? target).getD ⟨target⟩)
    fs ← add fs ⟨target⟩
  let env := Environment.ofVariables fs.cwdPath (bindings.lookup ·)
  for target in targets do
    for place in env.places fs target do
      fs ← add fs place
  return fs

def variableNames : List String :=
  ["GOPATH", "GOROOT", "HOME", "NO_COLOR"]

def invocation (arguments : List String) : IO Invocation := do
  let mut bindings := []
  for name in variableNames do
    if let some value ← IO.getEnv name then
      bindings := (name, value) :: bindings
  let fileSystem ← gather (← IO.currentDir).toString arguments bindings
  return { arguments, bindings, fileSystem, isTerminal := ← (← IO.getStdout).isTty }

def usageHint : String :=
  "error: unexpected arguments\n\nFor more information, try '--help'.\n"

end ErrorOrigins.Main

def main (arguments : List String) : IO UInt32 := do
  let invocation ← ErrorOrigins.Main.invocation arguments
  match invocation.outcome .own with
  | .error halt  =>
    IO.eprintln halt.message
    return 101
  | .ok outcome  =>
    IO.print outcome.output
    if outcome.exitCode ≠ 0 then
      match outcome.failure with
      | some failure => IO.eprintln failure
      | none         => IO.eprint ErrorOrigins.Main.usageHint
    return outcome.exitCode
