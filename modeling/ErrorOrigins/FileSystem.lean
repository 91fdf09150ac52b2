import ErrorOrigins.Error.Fault
import ErrorOrigins.Path

namespace ErrorOrigins

-- Why a directory does not show all that is in it: it cannot be opened, or its listing breaks off.
inductive Obstacle
  | closed (fault : Fault)
  | broken (shown : Nat) (fault : Fault)
  deriving DecidableEq, Repr, Inhabited

-- How many of some entries are shown.
def Obstacle.shown (count : Nat) : Option Obstacle → Nat
  | none                  => count
  | some (closed _)       => 0
  | some (broken shown _) => shown

inductive Entry
  -- A file, with its bytes or the reason why they cannot be read.
  | file (content : Except Fault (List UInt8))
  -- A directory. An obstacle stands in the way of its listing, but not of paths that lead through it.
  | dir (entries : List (String × Entry)) (obstacle : Option Obstacle)
  | link (target : String)
  deriving Repr, Inhabited

namespace Entry

def isFile : Entry → Bool
  | file _ => true
  | _      => false

def isDir : Entry → Bool
  | dir _ _ => true
  | _       => false

def isLink : Entry → Bool
  | link _ => true
  | _      => false

def entries : Entry → List (String × Entry)
  | dir entries _ => entries
  | _             => []

def obstacle? : Entry → Option Obstacle
  | dir _ obstacle => obstacle
  | _              => none

def child? (e : Entry) (name : String) : Option Entry :=
  e.entries.lookup name

-- The entry that some names lead to. Links are not followed.
def get? : Entry → List String → Option Entry
  | e, []            => some e
  | e, name :: names => (e.child? name).bind (·.get? names)

def withChild (e : Entry) (name : String) (child : Entry) : Entry :=
  if (e.child? name).isSome then
    dir (e.entries.map fun (n, old) => if n = name then (n, child) else (n, old)) e.obstacle?
  else dir (e.entries ++ [(name, child)]) e.obstacle?

-- Puts an entry where some names lead. Directories on the way are made.
def put (entry : Entry) : List String → Entry → Entry
  | [], _            => entry
  | name :: names, e => e.withChild name (put entry names ((e.child? name).getD (dir [] none)))

-- Removes the entry that some names lead to.
def erase : List String → Entry → Entry
  | [], e            => e
  | [name], e        => dir (e.entries.filter (·.1 ≠ name)) e.obstacle?
  | name :: names, e =>
    match e.child? name with
    | some child => e.withChild name (erase names child)
    | none       => e

end Entry

-- What is seen of a directory, and the fault that the listing ends in, if there is one.
structure Listing where
  entries : List (String × Entry)
  fault   : Option Fault
  deriving Repr, Inhabited

def Entry.listing : Entry → Except Fault Listing
  | dir entries none                         => .ok { entries, fault := none }
  | dir entries (some (.broken shown fault)) => .ok { entries := entries.take shown, fault := some fault }
  | dir _ (some (.closed fault))             => .error fault
  | _                                        => .error .notADirectory

structure FileSystem where
  root : Entry
  -- The names that lead from the root to the current directory.
  cwd  : List String
  deriving Repr, Inhabited

namespace FileSystem

-- How many links a path may lead through.
def linkLimit : Nat := 40

-- How many bytes a name may have.
def nameLimit : Nat := 255

-- How many bytes a path may have.
def pathLimit : Nat := 4095

-- The names in a path. A slash at the end asks for a directory, as a dot does.
def steps (text : String) : List String :=
  let pieces := (text.toList.splitOn '/').map String.ofList
  pieces.filter (· ≠ "") ++ if pieces.getLast? = some "" then ["."] else []

-- The directory that a path starts in.
def startOf (text : String) (here : List String) : List String :=
  if Path.isAbsolute text then [] else here

-- Follows steps from a directory. The result is where they lead, with links followed, and what is there.
-- Only the last step may lead to nothing, and a link there is followed if `through` says so.
def follow (root : Entry) (through : Bool) (links : Nat) (here : List String) (way : List String) :
    Except Fault (List String × Option Entry) :=
  match way with
  | []           => .ok (here, root.get? here)
  | step :: rest =>
    if step = "." then follow root through links here rest
    else if step = ".." then follow root through links here.dropLast rest
    else if step.utf8ByteSize > nameLimit then .error .nameTooLong
    else
      let there := here ++ [step]
      match root.get? there with
      | none                 => if rest.isEmpty then .ok (there, none) else .error .notFound
      | some (.file content) => if rest.isEmpty then .ok (there, some (.file content)) else .error .notADirectory
      | some (.dir _ _)      => follow root through links there rest
      | some (.link target)  =>
        if rest.isEmpty && !through then .ok (there, some (.link target))
        else
          match links with
          | 0         => .error .tooManyLinks
          | links + 1 => follow root through links (startOf target here) (steps target ++ rest)
termination_by (links, way.length)

def resolve (fs : FileSystem) (through : Bool) (path : Path) : Except Fault (List String × Option Entry) :=
  if path.text.toList.contains '\x00' then .error .nulInName
  else if path.text = "" then .error .notFound
  else if path.text.utf8ByteSize > pathLimit then .error .nameTooLong
  else follow fs.root through linkLimit (startOf path.text fs.cwd) (steps path.text)

-- What a path leads to.
def get (fs : FileSystem) (path : Path) : Except Fault Entry := do
  match ← fs.resolve true path with
  | (_, some entry) => return entry
  | (_, none)       => throw .notFound

def has (fs : FileSystem) (path : Path) : Bool :=
  (fs.get path).toOption.isSome

def isDir (fs : FileSystem) (path : Path) : Bool :=
  (fs.get path).toOption.any (·.isDir)

-- A path leads to a link before it leads further.
def isLink (fs : FileSystem) (path : Path) : Bool :=
  (fs.resolve false path).toOption.any fun (_, entry) => entry.any (·.isLink)

def readFile (fs : FileSystem) (path : Path) : Except Fault (List UInt8) := do
  match ← fs.get path with
  | .file content => content
  | _             => throw .isADirectory

def readDir (fs : FileSystem) (path : Path) : Except Fault Listing := do
  (← fs.get path).listing

-- The current directory as an absolute path.
def cwdPath (fs : FileSystem) : Path :=
  ⟨"/" ++ "/".intercalate fs.cwd⟩

-- Puts an entry where a path leads. Nothing changes if it leads nowhere.
def put (fs : FileSystem) (through : Bool) (path : Path) (entry : Entry) : FileSystem :=
  match fs.resolve through path with
  | .ok (names, _) => { fs with root := entry.put names fs.root }
  | .error _       => fs

-- Makes a directory, and those on the way that are missing.
def makeDirs (fs : FileSystem) (path : Path) : FileSystem :=
  path.ancestors.reverse.foldl (fun fs dir => if fs.has dir then fs else fs.put true dir (.dir [] none)) fs

def makeParents (fs : FileSystem) (path : Path) : FileSystem :=
  match path.parent? with
  | none     => fs
  | some dir => fs.makeDirs dir

-- Writes a file, and makes the directories on the way that are missing.
def writeFile (fs : FileSystem) (path : Path) (content : List UInt8) : FileSystem :=
  (fs.makeParents path).put true path (.file (.ok content))

def makeLink (fs : FileSystem) (path : Path) (target : String) : FileSystem :=
  (fs.makeParents path).put false path (.link target)

-- Removes a file, a link, or a directory with everything in it.
def remove (fs : FileSystem) (path : Path) : FileSystem :=
  match fs.resolve false path with
  | .ok (names, some _) => { fs with root := fs.root.erase names }
  | _                   => fs

-- The same files seen from another directory.
def changeDir (fs : FileSystem) (path : Path) : FileSystem :=
  match fs.resolve true path with
  | .ok (names, _) => { fs with cwd := names }
  | .error _       => fs

end FileSystem
end ErrorOrigins
