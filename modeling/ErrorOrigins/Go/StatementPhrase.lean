import ErrorOrigins.Go.ExpressionPhrase

namespace ErrorOrigins.Go.StatementPhrase

open Reader Lexeme TypePhrase ExpressionPhrase

-- Reads `= values`, if an equals sign comes next.
def values? (self : PhraseReader) (ends : Bool) : Reader (List Tree) := do
  if ← token? "=" ends then
    blanks false
    let values ← expressionList self { Context.bracketed with ends := true }
    return [values.withRole "value"]
  else return []

def nameList (ends : Bool) : Reader (List Tree) := do
  let names ← commaSeparated (wordAs "identifier") ends
  return names.map (·.withRole "name")

-- Reads names, which may stand alone, with values, or with a type and values.
def constSpec (self : PhraseReader) : Reader Tree := do
  let start ← get
  let names ← nameList true
  let values ← values? self true
  if !values.isEmpty then return ← close start "const_spec" (names ++ values)
  if (← simpleTypeComes true) || (← comes "(" true) then
    blanks true
    let type ← self (.type false false)
    let values ← values? self false
    require (!values.isEmpty)
    return ← close start "const_spec" (names ++ type.withRole "type" :: values)
  close start "const_spec" names

-- Reads names with a type, with values or with both.
def varSpec (self : PhraseReader) : Reader Tree := do
  let start ← get
  let names ← nameList false
  let values ← values? self false
  if !values.isEmpty then return ← close start "var_spec" (names ++ values)
  blanks false
  let type ← self (.type true false)
  let values ← values? self true
  close start "var_spec" (names ++ type.withRole "type" :: values)

-- Reads a name and the type it stands for. Brackets after the name hold a length or type parameters.
def typeSpec (self : PhraseReader) : Reader Tree := do
  let start ← get
  let name ← wordAs "type_identifier"
  let name := name.withRole "name"
  blanks false
  if ← token? "=" false then
    blanks false
    let type ← self (.type true false)
    return ← close start "type_alias" [name, type.withRole "type"]
  match ← attempt (self (.type true false)) with
  | some type => close start "type_spec" [name, type.withRole "type"]
  | none      =>
    let params ← typeParameterList self
    blanks false
    let type ← self (.type true false)
    close start "type_spec" [name, params.withRole "type_parameters", type.withRole "type"]

-- Reads specifications in parentheses, each with its terminator.
def specGroup (spec : Reader Tree) : Reader (List Tree) := do
  token "(" false
  let specs ← many do
    if ← token? ")" false then return none
    blanks false
    let s ← spec
    require (← terminator)
    return some s
  return specs

-- Reads a declaration after its keyword.
def declaration (start : Cursor) (kind : String) (spec : Reader Tree) (listKind : Option String) :
    Reader Tree := do
  blanks false
  let opening ← get
  if ← comes "(" false then
    let specs ← specGroup spec
    match listKind with
    | none          => close start kind specs
    | some listKind => close start kind [← close opening listKind specs]
  else close start kind [← spec]

def assignmentOperators : List String :=
  ["<<=", ">>=", "&^=", "*=", "/=", "%=", "&=", "+=", "-=", "|=", "^=", "="]

-- The assignment operator that comes next.
def assignmentOperator? (ends : Bool) : Reader (Option String) :=
  ahead do
    blanks ends
    let rest := (← get).rest
    match assignmentOperators.find? fun op => op.toList.isPrefixOf rest with
    | none    => failure
    | some op => pure op

-- Goes on after the first expression of a statement. `after` is the context of the values it may have.
def simpleFrom (self : PhraseReader) (ctx after : Context) (first : Tree) : Reader Tree := do
  if ← token? "<-" ctx.ends then
    blanks false
    let value ← self (.expression after)
    return ← closeFrom first "send_statement" [first.withRole "channel", value.withRole "value"]
  if ← token? "++" ctx.ends then return ← closeFrom first "inc_statement" [first]
  if ← token? "--" ctx.ends then return ← closeFrom first "dec_statement" [first]
  let left ← moreOf self ctx.ends first
  let single := left.children.length = 1
  let ends := ctx.ends && single
  let left := left.withRole "left"
  if ← token? ":=" ends then
    blanks false
    let right ← expressionList self after
    return ← closeFrom first "short_var_declaration" [left, right.withRole "right"]
  match ← assignmentOperator? ends with
  | some op =>
    token op ends
    blanks false
    let right ← expressionList self after
    closeFrom first "assignment_statement" [left, right.withRole "right"]
  | none =>
    require single
    closeFrom first "expression_statement" [first]

-- The context of a statement that stands by itself.
def lineContext : Context :=
  { ends := true, block := false, statement := true, subject := false }

-- The context at the start of a header that a block may follow.
def headerContext : Context :=
  { ends := false, block := true, statement := true, subject := false }

-- Reads a simple statement.
def simple (self : PhraseReader) (ctx after : Context) : Reader Tree := do
  let first ← self (.expression ctx)
  simpleFrom self ctx after first

-- Words that start a statement of their own.
def statementWords : List String :=
  ["const", "var", "type", "return", "go", "defer", "if", "for", "switch", "select", "fallthrough", "break",
    "continue", "goto"]

-- Reads a label and the statement it stands before.
def labeled (self : PhraseReader) (start : Cursor) (label : Tree) : Reader Tree := do
  let label := label.withRole "label"
  blanks false
  let s ← self .statement
  close start "labeled_statement" [label, s]

-- A label comes next. A word that starts an expression or a statement of its own is none.
def label? : Reader (Option Tree) :=
  attempt do
    let start ← get
    let w ← word
    require (!typeWords.contains w && !valueWords.contains w && !statementWords.contains w)
    let label ← close start "label_name" []
    require (← tokenBut? ":" "=" true)
    return label

-- Reads a label at the end of a list, which stands before no statement.
def emptyLabeled? : Reader (Option Tree) :=
  attempt do
    let start ← get
    match ← label? with
    | none       => failure
    | some label =>
      let tree ← close start "labeled_statement" [label.withRole "label"]
      require (← clauseEnds false)
      return tree

-- Reads statements up to the end of their list. Right after the brace that opens a block, `case` and `default`
-- are names.
def statementList (self : PhraseReader) (opened : Bool) : Reader (List Tree) := do
  let (statements, _) ← iterate (fun (statements, more) => do
    let ended ← if opened && statements.isEmpty then comes "\x7d" false else clauseEnds false
    if !more || ended then return none
    blanks false
    match ← emptyLabeled? with
    | some s => return some (s :: statements, false)
    | none   =>
      let s ← self .statement
      return some (s :: statements, ← terminator)) (([] : List Tree), true)
  return statements.reverse

def block (self : PhraseReader) : Reader Tree := do
  let start ← get
  exactly "\x7b"
  let statements ← statementList self true
  token "\x7d" false
  close start "block" statements

-- Reads an `if` with its keyword. The initializer is followed by a semicolon, never by a newline.
def ifStatement (self : PhraseReader) : Reader Tree := do
  let start ← get
  keyword "if" true
  blanks false
  let first ← simple self headerContext { Context.bracketed with ends := false }
  let header ←
    if ← token? ";" false then
      blanks false
      let condition ← self (.expression { headerContext with statement := false })
      pure [first.withRole "initializer", condition.withRole "condition"]
    else
      match first.kind, first.children with
      | "expression_statement", [condition] => pure [condition.withRole "condition"]
      | _, _ => failure
  blanks false
  let body ← self .block
  let alternative ←
    if ← keyword? "else" true then
      blanks false
      let alternative ←
        if (← nextWord? false) == some "if" then self .ifStatement else self .block
      pure [alternative.withRole "alternative"]
    else pure []
  close start "if_statement" (header ++ body.withRole "consequence" :: alternative)

-- Reads a range clause from its keyword on.
def rangeFrom (self : PhraseReader) (start : Cursor) (left : List Tree) : Reader Tree := do
  keyword "range" false
  blanks false
  let right ← self (.expression { headerContext with statement := false })
  close start "range_clause" (left ++ [right.withRole "right"])

-- Reads the rest of what a range clause assigns to, if the keyword follows it.
def rangeLeft? (self : PhraseReader) (first : Tree) : Reader (Option Tree) :=
  attempt do
    let left ← moreOf self false first
    if !(← token? ":=" false) then token "=" false
    require ((← nextWord? false) == some "range")
    return left.withRole "left"

-- Reads the three parts of a loop header from the end of the first one on.
def forClause (self : PhraseReader) (start : Cursor) (initializer : Option Tree) : Reader Tree := do
  token ";" false
  let condition ←
    if ← comes ";" false then pure []
    else
      blanks false
      let e ← self (.expression .bracketed)
      pure [e.withRole "condition"]
  token ";" false
  let update ←
    if ← comes "\x7b" false then pure []
    else
      blanks false
      let s ← simple self headerContext { headerContext with statement := false }
      pure [s.withRole "update"]
  close start "for_clause" ((initializer.map (·.withRole "initializer")).toList ++ condition ++ update)

-- Reads the header of a loop: a range, three parts or a condition.
def forHeader (self : PhraseReader) : Reader Tree := do
  let start ← get
  if (← nextWord? false) == some "range" then return ← rangeFrom self start []
  if ← comes ";" false then return ← forClause self start none
  let first ← self (.expression headerContext)
  match ← rangeLeft? self first with
  | some left => rangeFrom self start [left]
  | none      =>
    let s ← simpleFrom self headerContext .bracketed first
    if ← comes ";" false then forClause self start (some s)
    else
      require (s.kind == "expression_statement")
      return first

def forStatement (self : PhraseReader) (start : Cursor) : Reader Tree := do
  blanks false
  let header ← if ← comes "\x7b" false then pure [] else List.singleton <$> forHeader self
  blanks false
  let body ← self .block
  close start "for_statement" (header ++ [body.withRole "body"])

def defaultClause (self : PhraseReader) : Reader Tree := do
  let start ← get
  keyword "default" false
  token ":" false
  let body ← statementList self false
  close start "default_case" body

-- Reads a clause that starts with `case` and what is chosen by it.
def caseClause (self : PhraseReader) (kind : String) (choice : Reader (List Tree)) : Reader Tree := do
  let start ← get
  keyword "case" false
  blanks false
  let chosen ← choice
  token ":" false
  let body ← statementList self false
  close start kind (chosen ++ body)

-- Reads clauses in braces.
def clauses (self : PhraseReader) (kind : String) (choice : Reader (List Tree)) : Reader (List Tree) := do
  token "\x7b" false
  many do
    if ← token? "\x7d" false then return none
    blanks false
    if (← nextWord? false) == some "default" then return some (← defaultClause self)
    else return some (← caseClause self kind choice)

-- Reads the `.(type)` that makes a switch a type switch.
def typeGuard : Reader Unit := do
  token "." false
  token "(" false
  keyword "type" false
  token ")" false

def expressionChoice (self : PhraseReader) : Reader (List Tree) := do
  let values ← expressionList self .bracketed
  return [values.withRole "value"]

def typeChoice (self : PhraseReader) : Reader (List Tree) := do
  let types ← commaSeparated (self (.type false false)) false
  return types.map (·.withRole "type")

-- Reads the rest of a switch over types.
def typeSwitchFrom (self : PhraseReader) (start : Cursor) (header : List Tree) : Reader Tree := do
  typeGuard
  let cs ← clauses self "type_case" (typeChoice self)
  close start "type_switch_statement" (header ++ cs)

-- Reads the rest of a switch over values.
def valueSwitchFrom (self : PhraseReader) (start : Cursor) (header : List Tree) : Reader Tree := do
  let cs ← clauses self "expression_case" (expressionChoice self)
  close start "expression_switch_statement" (header ++ cs)

-- The context of what a switch starts with.
def switchContext : Context :=
  { headerContext with subject := true }

-- Reads the rest of a subject whose type is switched over, with the name it is bound to if there is one.
def typeSubject? (self : PhraseReader) (first : Tree) : Reader (Option (List Tree)) := do
  let bound ← attempt do
    let names ← moreOf self false first
    token ":=" false
    blanks false
    let subject ← self (.expression { Context.bracketed with subject := true })
    require (← guardComes false)
    return [names.withRole "alias", subject.withRole "value"]
  if bound.isNone && (← guardComes false) then return some [first.withRole "value"] else return bound

-- Reads a switch from its subject on, if it has one.
def switchFrom (self : PhraseReader) (start : Cursor) (initializer : Tree) : Reader Tree := do
  let header := [initializer.withRole "initializer"]
  if ← comes "\x7b" false then return ← valueSwitchFrom self start header
  blanks false
  let first ← self (.expression switchContext)
  match ← typeSubject? self first with
  | some subject => typeSwitchFrom self start (header ++ subject)
  | none         => valueSwitchFrom self start (header ++ [first.withRole "value"])

def switchStatement (self : PhraseReader) (start : Cursor) : Reader Tree := do
  if ← comes "\x7b" false then return ← valueSwitchFrom self start []
  blanks false
  let first ← self (.expression switchContext)
  match ← typeSubject? self first with
  | some subject => typeSwitchFrom self start subject
  | none         =>
    let s ← simpleFrom self headerContext .bracketed first
    if ← token? ";" false then switchFrom self start s
    else
      require (s.kind == "expression_statement")
      valueSwitchFrom self start [first.withRole "value"]

-- Reads what a clause of a select waits for: something to send or to receive.
def communication (self : PhraseReader) : Reader (List Tree) := do
  let first ← self (.expression { Context.bracketed with statement := true })
  if ← token? "<-" false then
    blanks false
    let value ← self (.expression .bracketed)
    let s ← closeFrom first "send_statement" [first.withRole "channel", value.withRole "value"]
    return [s.withRole "communication"]
  let left ← moreOf self false first
  let assigned ← if ← token? ":=" false then pure true else token? "=" false
  if assigned then
    blanks false
    let right ← self (.expression .bracketed)
    let s ← closeFrom first "receive_statement" [left.withRole "left", right.withRole "right"]
    return [s.withRole "communication"]
  require (left.children.length = 1)
  let s ← closeFrom first "receive_statement" [first.withRole "right"]
  return [s.withRole "communication"]

def selectStatement (self : PhraseReader) (start : Cursor) : Reader Tree := do
  let cs ← clauses self "communication_case" (communication self)
  close start "select_statement" cs

def returnStatement (self : PhraseReader) (start : Cursor) : Reader Tree := do
  if ← statementEnds then return ← close start "return_statement" []
  blanks true
  let values ← expressionList self { lineContext with statement := false }
  close start "return_statement" [values]

-- Reads `break` or `continue` after its keyword, with a label or without.
def jump (kind : String) (start : Cursor) : Reader Tree := do
  if ← statementEnds then return ← close start kind []
  blanks true
  let label ← wordAs "label_name"
  close start kind [label]

-- Reads `go` or `defer` after its keyword.
def deferred (self : PhraseReader) (kind : String) (start : Cursor) : Reader Tree := do
  blanks false
  let e ← self (.expression { lineContext with statement := false })
  close start kind [e]

def goto (start : Cursor) : Reader Tree := do
  blanks false
  let label ← wordAs "label_name"
  close start "goto_statement" [label]

-- Reads a statement that starts with a word.
def wordStatement (self : PhraseReader) (w : String) : Reader Tree := do
  let start ← get
  let after (r : Reader Tree) : Reader Tree := do
    let _ ← word
    r
  match w with
  | "const"       => after (declaration start "const_declaration" (constSpec self) none)
  | "var"         => after (declaration start "var_declaration" (varSpec self) (some "var_spec_list"))
  | "type"        => after (declaration start "type_declaration" (typeSpec self) none)
  | "return"      => after (returnStatement self start)
  | "go"          => after (deferred self "go_statement" start)
  | "defer"       => after (deferred self "defer_statement" start)
  | "if"          => self .ifStatement
  | "for"         => after (forStatement self start)
  | "switch"      => after (switchStatement self start)
  | "select"      => after (selectStatement self start)
  | "fallthrough" => after (close start "fallthrough_statement" [])
  | "break"       => after (jump "break_statement" start)
  | "continue"    => after (jump "continue_statement" start)
  | "goto"        => after (goto start)
  | _             =>
    match ← label? with
    | some label => labeled self start label
    | none       => simple self lineContext { lineContext with statement := false }

def statement (self : PhraseReader) : Reader Tree := do
  let start ← get
  match start.rest with
  | '\x7b' :: _ => self .block
  | ';' :: _ =>
    exactly ";"
    close start "empty_statement" []
  | _ =>
    match ← ahead word with
    | some w => wordStatement self w
    | none   => simple self lineContext { lineContext with statement := false }

end ErrorOrigins.Go.StatementPhrase
