namespace ErrorOrigins

-- A fatal error ends the run, a recoverable one costs its file or target, a skip is no failure.
inductive ErrorStatus
  | fatal | recoverable | skip
  deriving DecidableEq, Repr, Inhabited

namespace ErrorStatus

def text : ErrorStatus → String
  | fatal       => "fatal"
  | recoverable => "recoverable"
  | skip        => "skip"

def name : ErrorStatus → String
  | fatal       => "Fatal"
  | recoverable => "Recoverable"
  | skip        => "Skip"

def isFatal (s : ErrorStatus) : Bool :=
  s = fatal

def isFailure (s : ErrorStatus) : Bool :=
  s ≠ skip

end ErrorStatus

inductive ErrorKind
  | unexpected
  | configInvalid
  | parseFailed
  | encodingError
  | grammarError
  | fileNotFound
  | permissionDenied
  | ioFailed
  | traversalFailed
  | packageNotFound
  | noSourceFiles
  | generatedFile
  deriving DecidableEq, Repr, Inhabited

namespace ErrorKind

def all : List ErrorKind :=
  [unexpected, configInvalid, parseFailed, encodingError, grammarError, fileNotFound, permissionDenied,
    ioFailed, traversalFailed, packageNotFound, noSourceFiles, generatedFile]

def name : ErrorKind → String
  | unexpected       => "Unexpected"
  | configInvalid    => "ConfigInvalid"
  | parseFailed      => "ParseFailed"
  | encodingError    => "EncodingError"
  | grammarError     => "GrammarError"
  | fileNotFound     => "FileNotFound"
  | permissionDenied => "PermissionDenied"
  | ioFailed         => "IoFailed"
  | traversalFailed  => "TraversalFailed"
  | packageNotFound  => "PackageNotFound"
  | noSourceFiles    => "NoSourceFiles"
  | generatedFile    => "GeneratedFile"

-- The status of an error of this kind.
def status : ErrorKind → ErrorStatus
  | configInvalid => .fatal
  | generatedFile => .skip
  | _             => .recoverable

end ErrorKind
end ErrorOrigins
