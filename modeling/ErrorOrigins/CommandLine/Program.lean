import ErrorOrigins.CommandLine.Argument
import ErrorOrigins.Pattern.Text

namespace ErrorOrigins

def Pattern.compile : Excludes.Compiler := fun text =>
  match ofText? text with
  | some p => .ok p.matchesText
  | none   => .error { text := "malformed pattern", debug := "malformed pattern" }

-- The services of the program itself: its own patterns, no place for an error, and two workers.
def Services.own : Services where
  compile    := Pattern.compile
  firstError := fun _ => default
  shares     := { sizes := fun count => [count / 2] }

-- What the program gets to see.
structure Invocation where
  arguments  : List String
  bindings   : List (String × String)
  fileSystem : FileSystem
  isTerminal : Bool

-- What others see of the program.
structure Outcome where
  exitCode : UInt32
  output   : String
  failure  : Option String
  deriving DecidableEq, Repr, Inhabited

namespace Outcome

def success (output : String) : Outcome :=
  { exitCode := 0, output, failure := none }

def failed (failure : Option String) : Outcome :=
  { exitCode := 1, output := "", failure }

end Outcome

namespace Invocation

def environment (i : Invocation) : Environment :=
  .ofVariables i.fileSystem.cwdPath (i.bindings.lookup ·)

-- A terminal shows colors unless the user has turned them off.
def usesColors (i : Invocation) (o : Options) : Bool :=
  o.colorMode.usesColors (i.isTerminal && (i.bindings.lookup "NO_COLOR").isNone)

def outcome (x : Services) (i : Invocation) : Except Halt Outcome := do
  match Request.ofArguments? i.arguments with
  | none                 => return .failed none
  | some (.display page) => return .success page.text
  | some (.run o)        =>
    match ← (run x i.fileSystem i.environment o).run with
    | .ok report => return .success (report.text (i.usesColors o))
    | .error e   => return .failed (some ("errauditor: failed to run with: " ++ e.message))

end Invocation
end ErrorOrigins
