import ErrorOrigins.Text.Quoted

namespace ErrorOrigins

inductive FaultKind
  | notFound
  | permissionDenied
  | alreadyExists
  | invalidData
  | invalidInput
  | invalidFilename
  | notADirectory
  | isADirectory
  | filesystemLoop
  | other
  deriving DecidableEq, Repr, Inhabited

def FaultKind.name : FaultKind → String
  | notFound         => "NotFound"
  | permissionDenied => "PermissionDenied"
  | alreadyExists    => "AlreadyExists"
  | invalidData      => "InvalidData"
  | invalidInput     => "InvalidInput"
  | invalidFilename  => "InvalidFilename"
  | notADirectory    => "NotADirectory"
  | isADirectory     => "IsADirectory"
  | filesystemLoop   => "FilesystemLoop"
  | other            => "Other"

-- A failure with its description. One that the system reports has a number as well.
structure Fault where
  kind   : FaultKind
  detail : String
  code   : Option Nat
  deriving DecidableEq, Repr, Inhabited

namespace Fault

def text (f : Fault) : String :=
  match f.code with
  | none      => f.detail
  | some code => f.detail ++ " (os error " ++ toString code ++ ")"

def debug (f : Fault) : String :=
  match f.code with
  | none      => "Custom \x7b kind: " ++ f.kind.name ++ ", error: " ++ Text.quoted f.detail ++ " \x7d"
  | some code =>
    "Os \x7b code: " ++ toString code ++ ", kind: " ++ f.kind.name ++ ", message: "
      ++ Text.quoted f.detail ++ " \x7d"

def notFound : Fault :=
  { kind := .notFound, detail := "No such file or directory", code := some 2 }

def permissionDenied : Fault :=
  { kind := .permissionDenied, detail := "Permission denied", code := some 13 }

def notADirectory : Fault :=
  { kind := .notADirectory, detail := "Not a directory", code := some 20 }

def isADirectory : Fault :=
  { kind := .isADirectory, detail := "Is a directory", code := some 21 }

def nameTooLong : Fault :=
  { kind := .invalidFilename, detail := "File name too long", code := some 36 }

def tooManyLinks : Fault :=
  { kind := .filesystemLoop, detail := "Too many levels of symbolic links", code := some 40 }

def nulInName : Fault :=
  { kind := .invalidInput, detail := "file name contained an unexpected NUL byte", code := none }

end Fault
end ErrorOrigins
