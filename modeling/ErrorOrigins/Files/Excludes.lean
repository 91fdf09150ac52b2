import ErrorOrigins.Error.Running
import ErrorOrigins.Path

namespace ErrorOrigins

-- What the paths of excluded directories look like.
structure Excludes where
  patterns : List (String → Bool)

namespace Excludes

def none : Excludes :=
  { patterns := [] }

-- Makes patterns of texts, or tells why a text is none.
abbrev Compiler := String → Except Cause (String → Bool)

def patternOf (compile : Compiler) (text : String) : Running (String → Bool) :=
  match compile text with
  | .ok pattern  => pure pattern
  | .error cause =>
    let e := Error.configInvalid ("failed to parse exclude dir pattern: " ++ cause.text)
    .throwWith ((e.withOperation "discovery::compile_excludes").withContext "pattern" text) cause

-- The first text that is no pattern is an error.
def ofTexts (compile : Compiler) (texts : List String) : Running Excludes :=
  return { patterns := ← texts.mapM (patternOf compile) }

-- Whether a directory is excluded. A `./` in front of it does not count.
def matchesDir (x : Excludes) (dir : String) : Bool :=
  let dir := ((['.', '/'].isPrefixOf? dir.toList).map String.ofList).getD dir
  x.patterns.any (· dir)

-- The directory that holds a file.
def dirOf (path : Path) : String :=
  match path.parent? with
  | some dir    => if dir.text = "" then "." else dir.text
  | Option.none => "."

-- Files are excluded with the directory that holds them.
def excludesFile (x : Excludes) (path : Path) : Bool :=
  !x.patterns.isEmpty && x.matchesDir (dirOf path)

end Excludes
end ErrorOrigins
