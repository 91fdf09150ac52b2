import ErrorOrigins.Go.TypePhrase

namespace ErrorOrigins.Go.ExpressionPhrase

open Reader Lexeme TypePhrase

-- What has been read so far can be: a value, a type, or a function with type arguments, which a call must
-- follow.
structure Operand where
  value?    : Option Tree
  type?     : Option Tree          := none
  instance? : Option (Tree × Tree) := none

-- Reads one argument and tells whether dots follow it.
def argument (self : PhraseReader) : Reader (Tree × Bool) := do
  let e ← self (.expression .bracketed)
  if ← token? "..." false then return (← closeFrom e "variadic_argument" [e], true)
  return (e, false)

-- Reads arguments in parentheses.
def arguments (self : PhraseReader) : Reader (Tree × List (Tree × Bool)) := do
  let start ← get
  exactly "("
  let args ←
    if ← token? ")" false then pure []
    else
      blanks false
      commaTerminated (argument self) ")"
  return (← close start "argument_list" (args.map (·.1)), args)

-- Reads the arguments of `new` and `make`, of which the first is a type.
def typeFirstArguments (self : PhraseReader) : Reader Tree := do
  let start ← get
  exactly "("
  if ← token? ")" false then return ← close start "argument_list" []
  blanks false
  let type ← self (.type false false)
  let rest ← many do
    if ← token? "," false then
      if ← comes ")" false then return none
      blanks false
      return some (← self (.expression .bracketed))
    else return none
  token ")" false
  close start "argument_list" (type :: rest)

def call (function : Tree) (typeArguments : Option Tree) (arguments : Tree) : Reader Tree :=
  closeFrom function "call_expression"
    (function.withRole "function" :: (typeArguments.map (·.withRole "type_arguments")).toList
      ++ [arguments.withRole "arguments"])

-- Reads an element of a literal: an expression or a literal without its type.
def literalElement (self : PhraseReader) : Reader Tree := do
  let inner ←
    if ← comes "\x7b" false then self .literalValue
    else self (.expression .bracketed)
  closeFrom inner "literal_element" [inner]

def keyedElement (self : PhraseReader) : Reader Tree := do
  let first ← literalElement self
  if ← token? ":" false then
    blanks false
    let value ← literalElement self
    closeFrom first "keyed_element" [first.withRole "key", value.withRole "value"]
  else return first

def literalValue (self : PhraseReader) : Reader Tree := do
  let start ← get
  exactly "\x7b"
  let elements ← commaClosed (keyedElement self) "\x7d"
  close start "literal_value" elements

def composite (self : PhraseReader) (type : Tree) : Reader Operand := do
  let body ← self .literalValue
  let value ← closeFrom type "composite_literal" [type.withRole "type", body.withRole "body"]
  return { value? := some value }

-- Reads `[...]T`, the type of a literal that counts its elements itself.
def countedArrayType (self : PhraseReader) : Reader Tree := do
  let start ← get
  exactly "["
  token "..." false
  token "]" false
  blanks false
  let element ← self (.type false false)
  close start "implicit_length_array_type" [element.withRole "element"]

-- Reads a type that is no expression.
def typeOperand (self : PhraseReader) : Reader Operand := do
  let type ← countedArrayType self <|> self (.type false false)
  return { value? := none, type? := some type }

-- Reads a function literal, or a function type if no body follows.
def functionOperand (self : PhraseReader) : Reader Operand := do
  let start ← get
  keyword "func" true
  blanks false
  let params ← self .parameters
  let results ← results? self false
  if ← comes "\x7b" false then
    blanks false
    let body ← self .block
    let value ← close start "func_literal" (signature params results ++ [body.withRole "body"])
    return { value? := some value }
  let type ← close start "function_type" (signature params results)
  return { value? := none, type? := some type }

-- Reads an expression or a type in parentheses. Only where brackets follow can it matter that it is both.
def parenthesized (self : PhraseReader) (ends : Bool) : Reader Operand := do
  let start ← get
  let value ← attempt do
    exactly "("
    blanks false
    let e ← self (.expression .bracketed)
    token ")" false
    close start "parenthesized_expression" [e]
  if value.isNone then return ← typeOperand self
  let stop ← get
  if !(← comes "(" ends) && !(← comes "[" ends) then return { value? := value }
  set start
  let type ← attempt (self (.type false true))
  set stop
  return { value? := value, type? := type }

-- Reads an operand that starts with a word.
def wordOperand (self : PhraseReader) (ends : Bool) : Reader Operand := do
  let start ← get
  match ← ahead word with
  | none   => failure
  | some w =>
    if w == "func" then functionOperand self
    else if typeWords.contains w then typeOperand self
    else
      let _ ← word
      if w == "new" || w == "make" then
        let name ← close start "identifier" []
        if ← comes "(" ends then
          blanks ends
          let args ← typeFirstArguments self
          return { value? := some (← call name none args) }
        return { value? := some name }
      if valueWords.contains w then return { value? := some (← close start w []) }
      let name ← close start "identifier" []
      return { value? := some name, type? := some (name.withKind "type_identifier") }

def operand (self : PhraseReader) (ends : Bool) : Reader Operand := do
  match (← get).rest with
  | '(' :: _ => parenthesized self ends
  | '[' :: _ | '~' :: _ => typeOperand self
  | '"' :: _ | '\x60' :: _ | '\'' :: _ => return { value? := some (← quoted) }
  | c :: _ =>
    if isDecimal c || c = '.' then return { value? := some (← number) }
    else wordOperand self ends
  | [] => failure

-- The subject of a type switch ends here.
def guardComes (ends : Bool) : Reader Bool :=
  return (← ahead do
    token "." ends
    token "(" false
    keyword "type" false
    token ")" false).isSome

-- Reads a selector or a type assertion after its dot.
def afterDot (self : PhraseReader) (value : Tree) (type? : Option Tree) : Reader Operand := do
  blanks false
  if ← token? "(" false then
    blanks false
    let type ← self (.type false false)
    token ")" false
    let value ← closeFrom value "type_assertion_expression" [value.withRole "operand", type.withRole "type"]
    return { value? := some value }
  let field ← wordAs "field_identifier"
  let value ← closeFrom value "selector_expression" [value.withRole "operand", field.withRole "field"]
  let package := type?.filter (·.kind == "type_identifier")
  return { value? := some value, type? := package.map (qualifiedType · field) }

-- Reads what stands between brackets after an operand, as an index or as the bounds of a slice.
def indexOrSlice (self : PhraseReader) (x : Tree) : Reader Tree := do
  exactly "["
  let bound? : Reader (Option Tree) := do
    if (← comes ":" false) || (← comes "]" false) then return none
    blanks false
    return some (← self (.expression .bracketed))
  let start ← bound?
  if ← token? ":" false then
    let stop ← bound?
    let parts := x.withRole "operand" :: (start.map (·.withRole "start")).toList
      ++ (stop.map (·.withRole "end")).toList
    let capped ← if stop.isSome then token? ":" false else pure false
    if capped then
      blanks false
      let capacity ← self (.expression .bracketed)
      token "]" false
      closeFrom x "slice_expression" (parts ++ [capacity.withRole "capacity"])
    else
      token "]" false
      closeFrom x "slice_expression" parts
  else
    match start with
    | none       => failure
    | some index =>
      token "]" false
      closeFrom x "index_expression" [x.withRole "operand", index.withRole "index"]

-- The types among type arguments, if none of them is a choice between types.
def singleTypes? (typeArguments : Tree) : Option (List Tree) :=
  typeArguments.children.mapM fun elem =>
    match elem.children with
    | [type] => some type
    | _      => none

-- Type arguments may follow this type.
def takesArguments (type : Tree) : Bool :=
  ["type_identifier", "qualified_type", "negated_type"].contains type.kind

-- Reads what stands in brackets after an operand in all the ways it can be read.
def afterBracket (self : PhraseReader) (x : Operand) : Reader Operand := do
  let start ← get
  let from? (base : Option Tree) (r : Tree → Reader Tree) : Reader (Option (Tree × Cursor)) := do
    set start
    match base with
    | none   => return none
    | some t => attempt do return (← r t, ← get)
  let type := x.type?.filter (·.kind ≠ "implicit_length_array_type")
  let index ← from? x.value? (indexOrSlice self)
  let types ← from? type fun _ => typeArguments self false
  let called ← from? x.value? fun _ => typeArguments self true
  match index <|> types <|> called with
  | none           => failure
  | some (_, stop) =>
    set stop
    let instance? ← match type, types.bind (singleTypes? ·.1) with
      | some type, some args => some <$> closeFrom type "type_instantiation_expression" (type.withRole "type" :: args)
      | _, _                 => pure none
    return {
      value?    := Tree.weightiest? (instance?.toList ++ (index.map (·.1)).toList)
      type?     := (type.filter takesArguments).bind fun type => types.map (genericType type ·.1)
      instance? := x.value?.bind fun function => called.map (function, ·.1)
    }

-- Reads arguments after an operand: a conversion or a call.
def afterParenthesis (self : PhraseReader) (x : Operand) : Reader Operand := do
  let (argumentList, args) ← arguments self
  let conversion ← match x.type?, args with
    | some type, [(operand, false)] =>
      if type.kind == "implicit_length_array_type" then pure none
      else if x.value?.isSome && ["type_identifier", "qualified_type"].contains type.kind then pure none
      else some <$> closeFrom type "type_conversion_expression" [type.withRole "type", operand.withRole "operand"]
    | _, _ => pure none
  let instanceCall ← x.instance?.mapM fun (function, types) => call function (some types) argumentList
  let plainCall ← x.value?.mapM fun function => call function none argumentList
  match Tree.weightiest? (conversion.toList ++ plainCall.toList ++ instanceCall.toList) with
  | none       => failure
  | some value => return { value? := some value }

-- The types that only a literal makes an expression.
def literalTypes : List String :=
  ["map_type", "slice_type", "array_type", "implicit_length_array_type", "struct_type"]

-- The types that are given by name.
def namedTypes : List String :=
  ["type_identifier", "qualified_type", "generic_type"]

-- A literal of a named type starts here. Where a block may follow, a brace after a plain name opens the block;
-- after other type names it does so unless it can only be read as a literal, because the phrase goes on after it
-- on the same line or the block comes then.
def literalComes (self : PhraseReader) (ctx : Context) (plain : Bool) : Reader Bool := do
  if !(← comes "\x7b" ctx.ends) then return false
  if !ctx.block then return true
  if plain then return false
  let goesOn ← ahead do
    blanks ctx.ends
    let _ ← self .literalValue
    if !(← comes "\x7b" false) then
      require (!(← ahead (do require (← terminator))).isSome)
      require (!(← comes "\x7d" true))
      match ← nextWord? true with
      | some w => require !(["else", "case", "default"].contains w)
      | none   => pure ()
  return goesOn.isSome

-- Reads more of an operand from a line after it. Types do not end with their line, so a literal is read if there
-- is one. Brackets are read if they cannot start a statement of their own. Arguments are read too if the operand
-- has type arguments and the statement can go on with them.
def acrossLines? (self : PhraseReader) (ctx : Context) (x : Operand) : Reader (Option Operand) :=
  attempt do
    let type := x.type?.filter fun t => ["qualified_type", "generic_type"].contains t.kind
    let x : Operand := { x with value? := none, type? := type }
    require (x.type?.isSome || x.instance?.isSome)
    blanks false
    let stands (phrase : Phrase) : Reader Bool :=
      return (← ahead do
        let _ ← self phrase
        require (← statementEnds)).isSome
    match type, (← get).rest with
    | some type, '\x7b' :: _ => composite self type
    | _, '(' :: _ =>
      if ← stands .statement then
        require x.instance?.isSome
        if !ctx.statement then require (← stands (.expression ctx))
      afterParenthesis self x
    | _, '[' :: _ =>
      require !(← stands .statement)
      afterBracket self x
    | _, _ => failure

-- Reads one more part of an operand, if one comes next.
def suffix? (self : PhraseReader) (ctx : Context) (x : Operand) : Reader (Option Operand) := do
  let ends := ctx.ends && x.value?.isSome
  match x.value? with
  | none       => pure ()
  | some value =>
    if ← comes "." ends then
      if (← comes "..." ends) || (ctx.subject && (← guardComes ends)) then return none
      token "." ends
      return some (← afterDot self value x.type?)
  if ← comes "(" ends then
    blanks ends
    return some (← afterParenthesis self x)
  if ← comes "[" ends then
    blanks ends
    return some (← afterBracket self x)
  match x.type? with
  | none      => pure ()
  | some type =>
    let starts ←
      if literalTypes.contains type.kind then comes "\x7b" ends
      else if namedTypes.contains type.kind then
        literalComes self { ctx with ends } (type.kind == "type_identifier")
      else pure false
    if starts then
      blanks ends
      return some (← composite self type)
  if ends then acrossLines? self ctx x else return none

-- Reads all that follows an operand. What is no more than a type is no expression.
def suffixes (self : PhraseReader) (ctx : Context) (x : Operand) : Reader Tree := do
  match (← iterate (suffix? self ctx) x).value? with
  | none       => failure
  | some value => return value

def primary (self : PhraseReader) (ctx : Context) : Reader Tree := do
  suffixes self ctx (← operand self ctx.ends)

def unaryOperators : List String :=
  ["<-", "+", "-", "!", "^", "*", "&"]

-- Reads an operator before its operand.
def unaryOperator? : Reader (Option String) := do
  let rest := (← get).rest
  match unaryOperators.find? fun op => op.toList.isPrefixOf rest with
  | none    => return none
  | some op =>
    exactly op
    return some op

-- The expressions that start with another expression, on which what follows works.
def suffixKinds : List String :=
  ["selector_expression", "type_assertion_expression", "index_expression", "slice_expression", "call_expression"]

-- A star before a conversion or an instance makes its type a pointer type, rather than taking what the
-- converted value points to.
def starType? (star : Extent) : Tree → Option Tree
  | .node kind role extent (first :: rest) =>
    let extent' := star.upTo extent
    if kind == "type_conversion_expression" || kind == "type_instantiation_expression" then
      let pointer := Tree.node "pointer_type" (some "type") (star.upTo first.extent) [first.withoutRole]
      some (.node kind role extent' (pointer :: rest))
    else if suffixKinds.contains kind then
      (starType? star first).map fun first => .node kind role extent' (first :: rest)
    else none
  | .node _ _ _ [] => none

def unary (self : PhraseReader) (ctx : Context) : Reader Tree := do
  let start ← get
  let receiveType ← ahead do
    exactly "<-"
    keyword "chan" false
  if receiveType.isSome then return ← suffixes self ctx.operand (← typeOperand self)
  match ← unaryOperator? with
  | none    => primary self ctx
  | some op =>
    blanks false
    let operand ← self (.unary ctx.operand)
    let tree ← close start "unary_expression" [operand.withRole "operand"]
    if op == "*" then return (starType? tree.extent operand).getD tree else return tree

-- The binary operators, those that bind tightest first.
def binaryOperators : List (List String) :=
  [["<<", ">>", "&^", "*", "/", "%", "&"],
   ["+", "-", "|", "^"],
   ["==", "!=", "<=", ">=", "<", ">"],
   ["&&"],
   ["||"]]

-- All operators that may follow an operand, longer ones before their beginnings.
def operatorTexts : List String :=
  ["<<=", ">>=", "&^=", "<<", ">>", "&^", "&&", "||", "==", "!=", "<=", ">=", "+=", "-=", "*=", "/=", "%=",
    "&=", "|=", "^=", "+", "-", "*", "/", "%", "&", "|", "^", "<", ">"]

-- The operators that belong to a statement when the expression may start one.
def statementOperators : List String :=
  ["<-", "++", "--"]

-- The binary operator that comes next.
def binaryOperator? (ctx : Context) : Reader (Option String) := do
  let op ← ahead do
    blanks ctx.ends
    let rest := (← get).rest
    require (!(ctx.statement && statementOperators.any fun op => op.toList.isPrefixOf rest))
    match operatorTexts.find? fun op => op.toList.isPrefixOf rest with
    | none    => failure
    | some op => pure op
  return op

-- Reads operands joined by operators of some levels, each of which binds to the left.
def binary (self : PhraseReader) (ctx : Context) : List (List String) → Reader Tree
  | []              => unary self ctx
  | level :: levels => do
    let first ← binary self ctx levels
    iterate (fun left => do
      match ← binaryOperator? ctx with
      | none    => return none
      | some op =>
        if !level.contains op then return none
        token op ctx.ends
        blanks false
        let right ← binary self ctx.operand levels
        let tree ← closeFrom left "binary_expression" [left.withRole "left", right.withRole "right"]
        return some tree) first

def expression (self : PhraseReader) (ctx : Context) : Reader Tree :=
  binary self ctx binaryOperators.reverse

-- Reads the rest of a list after its first expression. Neither a newline nor a block can end such a list.
def moreOf (self : PhraseReader) (ends : Bool) (first : Tree) : Reader Tree := do
  let rest ←
    if ← comes "," ends then
      many do
        if ← token? "," false then
          blanks false
          return some (← self (.expression .bracketed))
        else return none
    else pure []
  closeFrom first "expression_list" (first :: rest)

-- Reads expressions separated by commas as one node.
def expressionList (self : PhraseReader) (ctx : Context) : Reader Tree := do
  let es ← commaSeparated (self (.expression ctx)) ctx.ends
  match es with
  | []     => failure
  | e :: _ => closeFrom e "expression_list" es

end ErrorOrigins.Go.ExpressionPhrase
