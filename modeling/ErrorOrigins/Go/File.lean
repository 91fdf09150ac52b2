import ErrorOrigins.Go.Lowering
import ErrorOrigins.Go.Text
import ErrorOrigins.Source.File

namespace ErrorOrigins.Go

-- The name of the language.
def languageName : String := "go"

def extensions : List String := ["go"]

-- Tells where the first error is in a text that is no Go.
abbrev ErrorFinder := String → Position

def syntaxError (file : SourceFile) (p : Position) : Error :=
  ((Error.parseFailed (file.shownPath ++ ":" ++ p.text ++ ": syntax error")).withOperation "go::lower_file").withContext
    "path" file.shownPath

-- The source tree of a file, if its bytes are a text and the text is Go.
def parseFile (firstError : ErrorFinder) (file : SourceFile) : Running SourceTree := do
  let text ← file.text
  match readText text.toList with
  | none      => throw (syntaxError file (firstError text))
  | some tree => return tree.toSourceTree text file.path

end ErrorOrigins.Go
