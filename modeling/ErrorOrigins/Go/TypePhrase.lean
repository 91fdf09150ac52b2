import ErrorOrigins.Go.Phrase
import ErrorOrigins.Go.Weight

namespace ErrorOrigins.Go.TypePhrase

open Reader Lexeme

-- Words that start a type wherever a type may stand.
def typeWords : List String :=
  ["struct", "interface", "map", "chan", "func"]

-- Words that stand for a value wherever an expression may stand.
def valueWords : List String :=
  ["nil", "true", "false", "iota", "new", "make"]

-- Reads a name where a type may stand.
def typeName (mixed : Bool) : Reader Tree := do
  let start ← get
  let w ← word
  require (!typeWords.contains w && !(mixed && valueWords.contains w))
  close start "type_identifier" []

-- Reads alternatives such as `~int | string`.
def typeElem (self : PhraseReader) (kind : String) (ends mixed : Bool) : Reader Tree := do
  let first ← self (.type ends mixed)
  let rest ← many do
    if ← tokenBut? "|" "|" ends then
      blanks false
      return some (← self (.type ends mixed))
    else return none
  closeFrom first kind (first :: rest)

-- Reads type arguments in brackets.
def typeArguments (self : PhraseReader) (mixed : Bool) : Reader Tree := do
  let start ← get
  exactly "["
  blanks false
  let args ← commaTerminated (typeElem self "type_elem" false mixed) "]"
  close start "type_arguments" args

-- The type that a name and the name of its package stand for.
def qualifiedType (package name : Tree) : Tree :=
  .node "qualified_type" none (package.extent.upTo name.extent)
    [(package.withKind "package_identifier").withRole "package", (name.withKind "type_identifier").withRole "name"]

-- The instance of a type for type arguments.
def genericType (type args : Tree) : Tree :=
  .node "generic_type" none (type.extent.upTo args.extent)
    [type.withRole "type", args.withRole "type_arguments"]

-- Reads a named type from the end of its first name on: it may be qualified or have type arguments.
def namedFrom (self : PhraseReader) (ends : Bool) (first : Tree) : Reader Tree := do
  let type ←
    if ← tokenBut? "." "." ends then
      blanks false
      let second ← wordAs "type_identifier"
      pure (qualifiedType first second)
    else pure first
  if ← comes "[" ends then
    blanks ends
    return genericType type (← typeArguments self false)
  else return type

-- A type other than a parenthesized one comes next.
def simpleTypeComes (ends : Bool) : Reader Bool := do
  if (← nextWord? ends).isSome then return true
  return (← comes "*" ends) || (← comes "[" ends) || (← comes "<-" ends) || (← comes "~" ends)

-- Reads the results of a function, if any come next.
def results? (self : PhraseReader) (ends : Bool) : Reader (Option Tree) := do
  if ← comes "(" ends then
    blanks ends
    return some (← self .parameters)
  if ← simpleTypeComes ends then
    blanks ends
    return some (← self (.type ends false))
  return none

-- The trees of a signature: parameters and results.
def signature (parameters : Tree) (results : Option Tree) : List Tree :=
  parameters.withRole "parameters" :: (results.map (·.withRole "result")).toList

-- An entry of a parameter list.
inductive Entry
  -- A type alone, or a name whose type follows later.
  | lone (type : Tree)
  | typed (name type : Tree)
  -- A type alone, or a name with its type.
  | either (lone name type : Tree)
  | variadic (declaration : Tree)

-- The entry is a plain name, so the next one can be another name.
def Entry.isPlain : Entry → Bool
  | .lone type => type.kind == "type_identifier"
  | _          => false

-- Reads a variadic entry from its dots on.
def variadic (self : PhraseReader) (start : Cursor) (name : Option Tree) : Reader Entry := do
  token "..." false
  blanks false
  let type ← self (.type false false)
  let parts := (name.map (·.withRole "name")).toList ++ [type.withRole "type"]
  return .variadic (← close start "variadic_parameter_declaration" parts)

def entryEnds : Reader Bool :=
  return (← comes "," false) || (← comes ")" false)

-- Reads the type that follows a name.
def typeAfter? (self : PhraseReader) : Reader (Option Tree) :=
  attempt do
    require (!(← comes "." false))
    blanks false
    let type ← self (.type false false)
    require (← entryEnds)
    return type

-- Reads an entry that starts with a word such as `chan`. After plain names it can be one more of them, and then
-- the type follows it.
def keywordEntry (self : PhraseReader) (w : String) (afterPlain : Bool) : Reader Entry := do
  let start ← get
  let lone : Reader Tree := do
    set start
    let type ← self (.type false false)
    require (← entryEnds)
    return type
  let name ← wordAs "identifier"
  match ← if afterPlain then typeAfter? self else pure none with
  | none      => return .lone (← lone)
  | some type =>
    -- Only the key of a map makes a difference between the two.
    let lone ← if w == "map" then ahead lone else pure none
    match lone with
    | none      => return .typed name type
    | some lone => return .either lone name type

def entry (self : PhraseReader) (previous : Option Entry) : Reader Entry := do
  let start ← get
  if ← comes "..." false then return ← variadic self start none
  match ← nextWord? true with
  | none   => return .lone (← self (.type false false))
  | some w =>
    if typeWords.contains w then return ← keywordEntry self w (previous.any (·.isPlain))
    let name ← wordAs "type_identifier"
    if ← comes "..." false then return ← variadic self start (some (name.withKind "identifier"))
    if ← entryEnds then return .lone name
    -- A bracket after a name starts the type of a parameter or the arguments of a type.
    match ← typeAfter? self with
    | some type => return .typed (name.withKind "identifier") type
    | none      =>
      set start
      return .lone (← self (.type false false))

-- A declaration of some names and their type.
def declaration (names : List Tree) (type : Tree) : Tree :=
  let start := (names.headD type).extent
  .node "parameter_declaration" none (start.upTo type.extent)
    (names.map (fun n => (n.withKind "identifier").withRole "name") ++ [type.withRole "type"])

-- How many plain names before a name with a type can share its type.
def sharedNames : Nat := 8

-- Declarations of plain names and of a name with a type, which the last ones of the plain names share.
def sharing (waiting : List Tree) (name type : Tree) : List Tree :=
  let (alone, shared) := waiting.splitAt (waiting.length - sharedNames)
  alone.map (declaration []) ++ [declaration (shared ++ [name]) type]

-- Groups entries: plain names right before a name with a type share that type, as far back as names are
-- shared. Other entries declare a type without a name. What can be a type or a name with a type is what makes
-- the declarations weigh more.
def declarations (waiting : List Tree) : List Entry → List Tree
  | [] => waiting.map (declaration [])
  | .lone type :: rest =>
    if type.kind == "type_identifier" then declarations (waiting ++ [type]) rest
    else waiting.map (declaration []) ++ declaration [] type :: declarations [] rest
  | .typed name type :: rest => sharing waiting name type ++ declarations [] rest
  | .either lone name type :: rest =>
    let unnamed := waiting.map (declaration []) ++ [declaration [] lone]
    let named := sharing waiting name type
    let first := if Tree.weights unnamed > Tree.weights named then unnamed else named
    first ++ declarations [] rest
  | .variadic d :: rest => waiting.map (declaration []) ++ d :: declarations [] rest

def parameters (self : PhraseReader) : Reader Tree := do
  let start ← get
  exactly "("
  let entries ← commaClosedAfter (entry self) ")"
  close start "parameter_list" (declarations [] entries)

-- Reads names that share a constraint.
def typeParameterDeclaration (self : PhraseReader) : Reader Tree := do
  let names ← commaSeparated (wordAs "identifier") false
  blanks false
  let constraint ← typeElem self "type_constraint" false false
  closeFrom (names.headD constraint) "type_parameter_declaration"
    (names.map (·.withRole "name") ++ [constraint.withRole "type"])

def typeParameterList (self : PhraseReader) : Reader Tree := do
  let start ← get
  exactly "["
  blanks false
  let decls ← commaTerminated (typeParameterDeclaration self) "]"
  close start "type_parameter_list" decls

-- A field ends here: its terminator or the closing brace comes next.
def fieldEnds : Reader Bool := do
  if ← comes "\x7d" true then return true
  return (← ahead do require (← terminator)).isSome

-- Reads the tag of a field, if it has one.
def tag? : Reader (List Tree) := do
  let tag ← attempt do
    blanks true
    stringLiteral
  return (tag.map (·.withRole "tag")).toList

-- Reads an embedded field: a named type or a pointer to one.
def embeddedField (self : PhraseReader) : Reader (List Tree) := do
  let _ ← token? "*" true
  blanks false
  let type ← namedFrom self true (← wordAs "type_identifier")
  let tag ← tag?
  require (← fieldEnds)
  return type.withRole "type" :: tag

-- Reads a field with names. After one name the type stands on the same line.
def namedField (self : PhraseReader) : Reader (List Tree) := do
  let first ← wordAs "field_identifier"
  let rest ←
    if ← comes "," true then
      many do
        if ← token? "," false then
          blanks false
          return some (← wordAs "field_identifier")
        else return none
    else pure []
  blanks (rest.isEmpty)
  let type ← self (.type true false)
  return (first :: rest).map (·.withRole "name") ++ type.withRole "type" :: (← tag?)

def fieldDeclaration (self : PhraseReader) : Reader Tree := do
  let start ← get
  let parts ← embeddedField self <|> namedField self
  close start "field_declaration" parts

def structType (self : PhraseReader) (start : Cursor) : Reader Tree := do
  blanks false
  let list ← get
  exactly "\x7b"
  let fields ← terminated (fieldDeclaration self) "\x7d"
  let list ← close list "field_declaration_list" fields
  close start "struct_type" [list]

def methodElem (self : PhraseReader) : Reader Tree := do
  let start ← get
  let name ← typeName false
  blanks true
  let params ← self .parameters
  let results ← results? self true
  close start "method_elem" ((name.withKind "field_identifier").withRole "name" :: signature params results)

def interfaceType (self : PhraseReader) (start : Cursor) : Reader Tree := do
  token "\x7b" false
  let elems ← terminated (methodElem self <|> typeElem self "type_elem" true false) "\x7d"
  close start "interface_type" elems

def mapType (self : PhraseReader) (start : Cursor) (ends : Bool) : Reader Tree := do
  token "[" false
  blanks false
  let key ← self (.type false false)
  token "]" false
  blanks false
  let value ← self (.type ends false)
  close start "map_type" [key.withRole "key", value.withRole "value"]

-- Reads a channel type after its first word. In `chan <-chan T` the arrow belongs to the inner type.
def channelType (self : PhraseReader) (start : Cursor) (ends : Bool) : Reader Tree := do
  let innerArrow ← ahead do
    token "<-" false
    keyword "chan" false
  if innerArrow.isNone then
    let _ ← token? "<-" false
  blanks false
  let value ← self (.type ends false)
  close start "channel_type" [value.withRole "value"]

def functionType (self : PhraseReader) (start : Cursor) (ends : Bool) : Reader Tree := do
  blanks false
  let params ← self .parameters
  let results ← results? self ends
  close start "function_type" (signature params results)

-- Reads `[]T` or `[n]T`.
def bracketType (self : PhraseReader) (ends : Bool) : Reader Tree := do
  let start ← get
  exactly "["
  if ← token? "]" false then
    blanks false
    let element ← self (.type ends false)
    close start "slice_type" [element.withRole "element"]
  else
    blanks false
    let length ← self (.expression .bracketed)
    token "]" false
    blanks false
    let element ← self (.type ends false)
    close start "array_type" [length.withRole "length", element.withRole "element"]

-- Reads a type that starts with a word.
def wordType (self : PhraseReader) (ends mixed : Bool) : Reader Tree := do
  let start ← get
  match ← nextWord? true with
  | some "struct"    => let _ ← word; structType self start
  | some "interface" => let _ ← word; interfaceType self start
  | some "map"       => let _ ← word; mapType self start ends
  | some "chan"      => let _ ← word; channelType self start ends
  | some "func"      => let _ ← word; functionType self start ends
  | _                => namedFrom self ends (← typeName mixed)

def type (self : PhraseReader) (ends mixed : Bool) : Reader Tree := do
  let start ← get
  match start.rest with
  | '*' :: _ =>
    exactly "*"
    blanks false
    let target ← self (.type ends mixed)
    close start "pointer_type" [target]
  | '[' :: _ => bracketType self ends
  | '(' :: _ =>
    exactly "("
    blanks false
    let inner ← self (.type false mixed)
    token ")" false
    close start "parenthesized_type" [inner]
  | '<' :: '-' :: _ =>
    exactly "<-"
    keyword "chan" false
    blanks false
    let value ← self (.type ends false)
    close start "channel_type" [value.withRole "value"]
  | '~' :: _ =>
    exactly "~"
    blanks false
    let inner ← self (.type ends false)
    close start "negated_type" [inner]
  | _ => wordType self ends mixed

end ErrorOrigins.Go.TypePhrase
