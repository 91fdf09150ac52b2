import ErrorOrigins.Error.Running
import ErrorOrigins.Text.Utf8

namespace ErrorOrigins

-- Why some bytes are no text. A character that breaks off at their end has no length.
def Cause.malformed (bytes : List UInt8) (offset : Nat) : Cause :=
  let length? :=
    match bytes.drop offset with
    | []             => none
    | first :: bytes => Text.malformedLength? 1 (Text.followers first) bytes
  let debug := "Utf8Error \x7b valid_up_to: " ++ toString offset ++ ", error_len: "
  match length? with
  | none        =>
    { text  := "incomplete utf-8 byte sequence from index " ++ toString offset
      debug := debug ++ "None \x7d" }
  | some length =>
    { text  := "invalid utf-8 sequence of " ++ toString length ++ " bytes from index " ++ toString offset
      debug := debug ++ "Some(" ++ toString length ++ ") \x7d" }

structure SourceFile where
  path    : Option String
  content : List UInt8
  deriving DecidableEq, Repr, Inhabited

namespace SourceFile

-- The name of the file in messages.
def shownPath (f : SourceFile) : String :=
  f.path.getD "<memory>"

-- The text of a file, or how many of its bytes are well formed.
def text (f : SourceFile) : Running String :=
  match Text.decodeUtf8 f.content with
  | .ok chars     => return String.ofList chars
  | .error offset =>
    let e := (Error.encoding (f.shownPath ++ " is not valid UTF-8")).withContext "valid_up_to" (toString offset)
    .throwWith e (.malformed f.content offset)

end SourceFile
end ErrorOrigins
