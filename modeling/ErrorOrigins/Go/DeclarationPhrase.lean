import ErrorOrigins.Go.StatementPhrase

namespace ErrorOrigins.Go.DeclarationPhrase

open Reader Lexeme TypePhrase StatementPhrase

def packageClause (start : Cursor) : Reader Tree := do
  blanks false
  let name ← wordAs "package_identifier"
  close start "package_clause" [name]

-- Reads the path of an import, with the name it is known by if there is one.
def importSpec : Reader Tree := do
  let start ← get
  let name ← attempt do
    if ← token? "." true then close start "dot" []
    else wordAs "package_identifier"
  blanks false
  let path ← stringLiteral
  close start "import_spec" ((name.map (·.withRole "name")).toList ++ [path.withRole "path"])

def importDeclaration (start : Cursor) : Reader Tree := do
  blanks false
  let opening ← get
  if ← token? "(" false then
    let specs ← terminated importSpec ")"
    close start "import_declaration" [← close opening "import_spec_list" specs]
  else close start "import_declaration" [← importSpec]

-- Reads the rest of a function from its parameters on. The body may be missing.
def functionFrom (self : PhraseReader) (start : Cursor) (kind : String) (head : List Tree) : Reader Tree := do
  blanks false
  let params ← self .parameters
  let results ← results? self true
  let body ←
    if ← comes "\x7b" true then
      blanks true
      let b ← self .block
      pure [b.withRole "body"]
    else pure []
  close start kind (head ++ signature params results ++ body)

def functionDeclaration (self : PhraseReader) : Reader Tree := do
  let start ← get
  keyword "func" true
  blanks false
  let name ← wordAs "identifier"
  blanks false
  let typeParameters ←
    if ← comes "[" false then
      let params ← typeParameterList self
      pure [params.withRole "type_parameters"]
    else pure []
  functionFrom self start "function_declaration" (name.withRole "name" :: typeParameters)

def methodDeclaration (self : PhraseReader) : Reader Tree := do
  let start ← get
  keyword "func" true
  blanks false
  let receiver ← self .parameters
  blanks false
  let name ← typeName false
  require (← comes "(" false)
  functionFrom self start "method_declaration"
    [receiver.withRole "receiver", (name.withKind "field_identifier").withRole "name"]

-- A method starts here: a parameter list, a name and a second parameter list follow.
def methodComes (self : PhraseReader) : Reader Bool :=
  return (← ahead do
    keyword "func" true
    blanks false
    let _ ← self .parameters
    blanks false
    let _ ← typeName false
    token "(" false).isSome

def declaration (self : PhraseReader) : Reader Tree := do
  let start ← get
  match ← ahead word with
  | some "package" => let _ ← word; packageClause start
  | some "import"  => let _ ← word; importDeclaration start
  | some "func"    =>
    let named ← ahead do
      keyword "func" true
      blanks false
      word
    if named.isSome then functionDeclaration self
    else if ← methodComes self then methodDeclaration self
    else self .statement
  | _ => self .statement

-- Reads a whole file.
def sourceFile (self : PhraseReader) : Reader Tree := do
  let start ← get
  let decls ← many do
    blanks false
    if (← get).rest.isEmpty then return none
    let d ← declaration self
    require (← terminator)
    return some d
  close start "source_file" decls

end ErrorOrigins.Go.DeclarationPhrase
