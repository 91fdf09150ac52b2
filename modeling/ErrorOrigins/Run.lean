import ErrorOrigins.Files.Selection
import ErrorOrigins.Go.File
import ErrorOrigins.Parallel
import ErrorOrigins.Report
import ErrorOrigins.Source.Generated

namespace ErrorOrigins

structure Options where
  targets     : List String      := []
  diagnostics : Bool             := false
  color       : Option ColorMode := none
  parallel    : Bool             := false
  exclude     : List String      := []
  deriving DecidableEq, Repr, Inhabited

def Options.colorMode (o : Options) : ColorMode :=
  o.color.getD .auto

-- What a run leaves to others.
structure Services where
  compile    : Excludes.Compiler
  firstError : Go.ErrorFinder
  shares     : Shares

def readSource (fs : FileSystem) (path : Path) : Running SourceFile :=
  match fs.readFile path with
  | .ok content  => return { path := some path.text, content }
  | .error fault => .throwFault fault (·.withContext "path" path.text)

-- The tree of a source file that is not generated.
def sourceTree (firstError : Go.ErrorFinder) (file : SourceFile) : Running SourceTree :=
  if Generated.isGenerated file.content then throw (Error.generatedFile file.shownPath)
  else Go.parseFile firstError file

def loadFile (firstError : Go.ErrorFinder) (fs : FileSystem) (path : Path) : Running SourceTree :=
  (readSource fs path >>= sourceTree firstError).mapError (·.withOperation "pipeline::load_file")

-- The trees of the files that can be loaded.
def loadEach (firstError : Go.ErrorFinder) (fs : FileSystem) (paths : List Path) : Except Halt (List SourceTree) :=
  return (← paths.mapM fun path => (loadFile firstError fs path).attempt).filterMap id

def loadTrees (x : Services) (parallel : Bool) (fs : FileSystem) (paths : List Path) : Except Halt (List SourceTree) :=
  if parallel then x.shares.collect (loadEach x.firstError fs) paths else loadEach x.firstError fs paths

-- The findings of some trees. In parallel each tree has its own findings, merged in the end.
def audit (shares : Shares) (parallel : Bool) (trees : List SourceTree) : Except Halt Findings :=
  if parallel then shares.collect (fun trees => .ok (trees.map fun t => collect [t])) trees >>= Findings.mergeAll
  else .ok (collect trees)

-- A run from targets to a report. Files and targets that cannot be used are left out.
def run (x : Services) (fs : FileSystem) (env : Environment) (o : Options) : Running Report := do
  let excludes ← Excludes.ofTexts x.compile o.exclude
  let query := { targets := o.targets, excludes, extensions := Go.extensions : Query }
  let trees ← loadTrees x o.parallel fs (← query.files fs env)
  if o.diagnostics then return .diagnostics (diagnostics trees)
  else return .origins (← audit x.shares o.parallel trees)

end ErrorOrigins
