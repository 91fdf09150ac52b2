import ErrorOrigins.Proofs.CallChain
import ErrorOrigins.Proofs.Decoding
import ErrorOrigins.Proofs.Loading
import ErrorOrigins.Proofs.Lookup

namespace ErrorOrigins

-- What is asked of a file.
inductive Check
  | readable | handWritten | text | go
  deriving DecidableEq, Repr, Inhabited

namespace Check

section Files

variable (fs : FileSystem) (path : Path)

end Files

def status : Check → ErrorStatus
  | handWritten => .skip
  | _           => .recoverable

-- The operation that has failed, where it has a name.
def operation? : Check → Option String
  | readable => some "io"
  | go       => some "go::lower_file"
  | _        => none

end Check

-- A file that holds a text answers with it.
theorem text_of_bytes (shown : Option String) (text : String) :
    ({ path := shown, content := Text.bytes text } : SourceFile).text.Answers (.ok text) := by
  have hd : Text.decodeUtf8 (Text.bytes text) = .ok text.toList := Text.decodeUtf8_eq_ok_iff.mpr (Text.bytes_eq text)
  have ht := @SourceFile.text_of_chars { path := shown, content := Text.bytes text } _ hd
  rwa [String.ofList_toList] at ht

namespace Check

variable {firstError : Go.ErrorFinder} {fs : FileSystem} {path : Path}

end Check

namespace Stale

def content : List UInt8 :=
  Generated.asciiBytes "// Code generated by hand. DO NOT EDIT.\n" ++ [0xff]

def fs : FileSystem where
  root := .dir [("x.go", .file (.ok content))] none
  cwd  := []

theorem readFile_eq : fs.readFile ⟨"x.go"⟩ = .ok content := by
  have hg : fs.get ⟨"x.go"⟩ = .ok (.file (.ok content)) := FileSystem.get_names (by decide) (by decide) rfl (by decide)
  exact FileSystem.readFile_eq_ok_iff.mpr hg

end Stale

end ErrorOrigins
