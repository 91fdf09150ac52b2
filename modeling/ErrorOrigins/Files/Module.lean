import ErrorOrigins.Text.Split

namespace ErrorOrigins.Module

def fileName : String := "go.mod"

-- What stands in front of a comment.
def beforeComment : List Char → List Char
  | '/' :: '/' :: _ => []
  | c :: rest       => c :: beforeComment rest
  | []              => []

-- The name in a line that is a `module` directive.
def directive? (line : List Char) : Option String := do
  let rest ← "module".toList.isPrefixOf? (Text.trim Text.isBlank (beforeComment line))
  guard (rest.head?.any fun c => Text.isBlank c || c == '"')
  let name := Text.trim (· == '"') (Text.trim Text.isBlank rest)
  if name.isEmpty then none else some (String.ofList name)

-- The name in the first directive.
def name? (text : String) : Option String :=
  (text.toList.splitOn '\n').findSome? directive?

end ErrorOrigins.Module
