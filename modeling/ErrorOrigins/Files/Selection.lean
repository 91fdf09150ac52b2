import ErrorOrigins.Files.Directory
import ErrorOrigins.Files.Excludes
import ErrorOrigins.Files.Package
import ErrorOrigins.Files.Target

namespace ErrorOrigins

-- Paths without those that were met before, maybe in another spelling.
def keepFirst (seen : List Path) : List Path → List Path
  | []           => []
  | path :: rest =>
    if seen.any (·.same path) then keepFirst seen rest else path :: keepFirst (path :: seen) rest

-- The directories that a target stands for.
def Target.dirs (fs : FileSystem) : Target → List Path
  | tree root => fs.packageDirs root
  | dir path  => [path]
  | _         => []

-- What files are looked for.
structure Query where
  targets    : List String
  excludes   : Excludes
  extensions : List String

namespace Query

-- A directory without source files has none to offer, whatever the reason.
def filesIn (q : Query) (fs : FileSystem) (dir : Path) : Except Halt (List Path) :=
  return (← (fs.sourceFiles q.extensions dir).attempt).getD []

-- Every file that some target stands for, with repetitions.
def offered (q : Query) (fs : FileSystem) (env : Environment) : Except Halt (List Path) := do
  let texts := if q.targets.isEmpty then [Target.everything] else q.targets
  let targets := texts.map (Target.ofText fs)
  let packages := (targets.filterMap Target.package?).filterMap fun name => (env.resolve fs name).toOption
  let found ← (targets.flatMap (Target.dirs fs) ++ packages).mapM (q.filesIn fs)
  return targets.filterMap Target.file? ++ found.flatten

-- The files to read, each of them once.
def files (q : Query) (fs : FileSystem) (env : Environment) : Except Halt (List Path) :=
  return keepFirst [] ((← q.offered fs env).filter (!q.excludes.excludesFile ·))

end Query
end ErrorOrigins
