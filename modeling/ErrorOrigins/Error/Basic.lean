import ErrorOrigins.Halt
import ErrorOrigins.Error.Kind
import ErrorOrigins.Error.Fault

namespace ErrorOrigins

def ErrorKind.ofFault : FaultKind → ErrorKind
  | .notFound         => .fileNotFound
  | .permissionDenied => .permissionDenied
  | _                 => .ioFailed

-- A failure underneath an error, as users and as developers see it.
structure Cause where
  text  : String
  debug : String
  deriving DecidableEq, Repr, Inhabited

def Cause.ofFault (f : Fault) : Cause :=
  { text := f.text, debug := f.debug }

structure Error where
  kind      : ErrorKind
  message   : String
  status    : ErrorStatus
  operation : String
  context   : List (String × String)
  cause     : Option Cause
  deriving DecidableEq, Repr, Inhabited

namespace Error

def new (kind : ErrorKind) (message : String) : Error :=
  { kind, message, status := kind.status, operation := "", context := [], cause := none }

def withContext (e : Error) (key value : String) : Error :=
  { e with context := e.context ++ [(key, value)] }

-- The operation that was set before is not lost: it becomes the context entry `called`.
def withOperation (e : Error) (operation : String) : Error :=
  let e := if e.operation = "" then e else e.withContext "called" e.operation
  { e with operation }

-- An error has at most one cause.
def setCause (e : Error) (cause : Cause) : Except Halt Error :=
  match e.cause with
  | none   => .ok { e with cause := some cause }
  | some _ => .error .causeAlreadySet

def isFatal (e : Error) : Bool :=
  e.status.isFatal

def ofFault (f : Fault) : Except Halt Error :=
  ((new (.ofFault f.kind) f.text).withOperation "io").setCause (.ofFault f)

def unexpected (message : String) : Error :=
  new .unexpected message

def configInvalid (message : String) : Error :=
  new .configInvalid message

def parseFailed (message : String) : Error :=
  new .parseFailed message

def encoding (message : String) : Error :=
  new .encodingError message

def grammar (message : String) : Error :=
  new .grammarError message

def traversalFailed (message : String) : Error :=
  new .traversalFailed message

def fileNotFound (path : String) : Error :=
  (new .fileNotFound ("file '" ++ path ++ "' not found")).withContext "path" path

def packageNotFound (package : String) : Error :=
  (new .packageNotFound ("cannot find package '" ++ package ++ "'")).withContext "package" package

def noSourceFiles (dir : String) : Error :=
  (new .noSourceFiles ("no Go source files in '" ++ dir ++ "'")).withContext "dir" dir

def generatedFile (path : String) : Error :=
  (new .generatedFile (path ++ " is a generated file")).withContext "path" path

-- An error without a message is shown by its kind.
def text (e : Error) : String :=
  let message := if e.message = "" then e.kind.name else e.message
  let operation := if e.operation = "" then "" else ", in " ++ e.operation
  let context := e.context.map fun (key, value) => ", " ++ key ++ "=" ++ value
  message ++ " [" ++ e.kind.name ++ ", " ++ e.status.text ++ operation ++ String.join context ++ "]"

-- Parts that are not set are left out.
def debug (e : Error) : String :=
  let operation := if e.operation = "" then "" else ", operation: " ++ Text.quoted e.operation
  let entry := fun (key, value) => "(" ++ Text.quoted key ++ ", " ++ Text.quoted value ++ ")"
  let context :=
    if e.context.isEmpty then "" else ", context: [" ++ ", ".intercalate (e.context.map entry) ++ "]"
  let cause :=
    match e.cause with
    | none       => ""
    | some cause => ", source: " ++ cause.debug
  "Error \x7b kind: " ++ e.kind.name ++ ", status: " ++ e.status.name ++ ", message: "
    ++ Text.quoted e.message ++ operation ++ context ++ cause ++ " \x7d"

end Error
end ErrorOrigins
