import ErrorOrigins.Go.Lexeme

namespace ErrorOrigins.Go

-- What may come after an expression.
structure Context where
  -- A newline ends the expression.
  ends      : Bool
  -- A block may follow, so a brace after a plain name opens the block and not a literal.
  block     : Bool
  -- The expression may start a statement, so `<-`, `++` and `--` after it belong to the statement.
  statement : Bool
  -- The expression may be the subject of a type switch, so `.(type)` does not belong to it.
  subject   : Bool
  deriving DecidableEq, Repr, Inhabited

namespace Context

-- Inside brackets nothing but the closing bracket ends an expression.
def bracketed : Context :=
  { ends := false, block := false, statement := false, subject := false }

-- The context of the operands after the first one.
def operand (ctx : Context) : Context :=
  { ctx with subject := false }

-- The context of a value on the right of an assignment.
def value (ctx : Context) : Context :=
  { ctx with statement := false, subject := false }

end Context

inductive Phrase
  -- A type. In a `mixed` place an expression may stand as well, and words such as `nil` are no names.
  | type (ends mixed : Bool)
  | parameters
  | unary (ctx : Context)
  | expression (ctx : Context)
  | literalValue
  | block
  | statement
  | ifStatement

abbrev PhraseReader := Phrase → Reader Tree

-- Reads items separated by commas, at least one.
def commaSeparated (item : Reader α) (ends : Bool) : Reader (List α) := do
  let first ← item
  let rest ← Reader.many do
    if ← Lexeme.token? "," ends then
      Lexeme.blanks false
      return some (← item)
    else return none
  return first :: rest

-- Reads items separated by commas inside brackets, at least one. A comma may follow the last. The reader of an
-- item is given the item before it.
def commaTerminatedAfter (item : Option α → Reader α) (closing : String) : Reader (List α) := do
  let first ← item none
  let items ← Reader.iterate (fun items => do
    if ← Lexeme.token? "," false then
      if ← Lexeme.comes closing false then return none
      Lexeme.blanks false
      return some ((← item items.head?) :: items)
    else return none) [first]
  Lexeme.token closing false
  return items.reverse

def commaTerminated (item : Reader α) (closing : String) : Reader (List α) :=
  commaTerminatedAfter (fun _ => item) closing

-- Reads items separated by commas and a closing bracket, where even no item at all may be followed by a
-- comma.
def commaClosedAfter (item : Option α → Reader α) (closing : String) : Reader (List α) := do
  if ← Lexeme.token? closing false then return []
  if ← Lexeme.token? "," false then
    Lexeme.token closing false
    return []
  Lexeme.blanks false
  commaTerminatedAfter item closing

def commaClosed (item : Reader α) (closing : String) : Reader (List α) :=
  commaClosedAfter (fun _ => item) closing

-- Reads a list in braces whose items are ended by terminators. The last item needs none.
def terminated (item : Reader α) (closing : String) : Reader (List α) := do
  let items ← Reader.iterate (fun (items, more) => do
    if !more then return none
    if ← Lexeme.comes closing false then return none
    Lexeme.blanks false
    let i ← item
    return some (i :: items, ← Lexeme.terminator)) ([], true)
  Lexeme.token closing false
  return items.1.reverse

-- A clause of a switch ends here, since its block ends or the next clause starts.
def clauseEnds (ends : Bool) : Reader Bool := do
  if ← Lexeme.comes "\x7d" ends then return true
  match ← Lexeme.nextWord? ends with
  | some w => return w == "case" || w == "default"
  | none   => return false

-- Nothing more stands before the end of the statement.
def statementEnds : Reader Bool := do
  if (← Reader.ahead (do Reader.require (← Lexeme.terminator))).isSome then return true
  clauseEnds true

end ErrorOrigins.Go
