import ErrorOrigins.Error.Running
import ErrorOrigins.FileSystem

namespace ErrorOrigins

-- A name that is hidden from builds.
def isHidden (name : String) : Bool :=
  name.toList.head?.any fun c => c == '.' || c == '_'

-- A directory that holds no packages.
def isSkippedDir (name : String) : Bool :=
  name == "testdata" || name == "vendor" || isHidden name

mutual

-- The ways from a directory to the directories that are seen in it, the empty way first. Links are not followed.
def Entry.packageWays : Entry → List (List String)
  | .dir entries obstacle => [] :: Entry.packageWaysIn (Obstacle.shown entries.length obstacle) entries
  | _                     => []

-- The ways through the first of some entries.
def Entry.packageWaysIn : Nat → List (String × Entry) → List (List String)
  | 0, _                             => []
  | _, []                            => []
  | shown + 1, (name, entry) :: rest =>
    (if isSkippedDir name then [] else entry.packageWays.map (name :: ·)) ++ packageWaysIn shown rest

end

-- A directory comes before those in it, and those in it come by their names.
def wayLe : List String → List String → Bool
  | [], _            => true
  | _ :: _, []       => false
  | a :: as, b :: bs => a < b || (a == b && wayLe as bs)

namespace FileSystem

-- The text that stands for the standard input and never for a directory to walk.
def standardInput : Path := ⟨"-"⟩

-- A directory is opened by its path, so nothing in it is seen if this is too long.
def isSeen (root : Path) (way : List String) : Bool :=
  (way.dropLast.foldl Path.join root).text.utf8ByteSize ≤ pathLimit

-- The directories that may hold packages, in the order of their names: a directory, and those below it. A
-- link that is walked is not one of them.
def packageDirs (fs : FileSystem) (root : Path) : List Path :=
  match fs.get root with
  | .error _  => []
  | .ok entry =>
    if root.same standardInput then [] else
      let ways := (entry.packageWays.mergeSort wayLe).filter (isSeen root)
      let ways := if fs.isLink root then ways.filter (· ≠ []) else ways
      ways.map fun way => way.foldl Path.join root

-- A directory entry that is a source file.
def isSource (extensions : List String) : String × Entry → Bool
  | (name, .file _) => !isHidden name && (Path.nameExtension? name).any (extensions.contains ·)
  | _               => false

-- The source files in a directory, in the order of their names. A listing that breaks off has none.
def sourceFiles (fs : FileSystem) (extensions : List String) (dir : Path) : Running (List Path) :=
  match fs.readDir dir with
  | .error fault  =>
    .throwFault fault fun e => (e.withOperation "discovery::source_files").withContext "dir" dir.text
  | .ok listing   =>
    match listing.fault with
    | some fault => .throwFault fault id
    | none       =>
      match (listing.entries.filter (isSource extensions)).map (·.1) with
      | []    => throw (Error.noSourceFiles dir.text)
      | names => return (names.mergeSort (· ≤ ·)).map dir.join

end FileSystem
end ErrorOrigins
