import ErrorOrigins.Pattern.Basic

namespace ErrorOrigins.Pattern

-- Switches that a group such as `(?i)` sets for what follows.
structure Flags where
  ignoreCase  : Bool
  multiLine   : Bool
  dotNewline  : Bool
  -- Classes and case hold for all scripts.
  unicode     : Bool
  -- Blanks and comments in the pattern do not count.
  verbose     : Bool
  returnLines : Bool
  deriving DecidableEq, Repr, Inhabited

namespace Flags

def initial : Flags :=
  { ignoreCase := false, multiLine := false, dotNewline := false, unicode := true, verbose := false,
    returnLines := false }

-- Sets the flag with the given letter.
def set? (f : Flags) (letter : Char) (value : Bool) : Option Flags :=
  match letter with
  | 'i' => some { f with ignoreCase := value }
  | 'm' => some { f with multiLine := value }
  | 's' => some { f with dotNewline := value }
  | 'u' => some { f with unicode := value }
  | 'x' => some { f with verbose := value }
  | 'R' => some { f with returnLines := value }
  -- Which of several matches is preferred does not matter to a search.
  | 'U' => some f
  | _   => none

def wordSet (f : Flags) : CharSet :=
  if f.unicode then .word else .asciiWord

def assertion (f : Flags) (what : Assertion) : Pattern :=
  .assert what f.wordSet

def folded (f : Flags) (s : CharSet) : CharSet :=
  if !f.ignoreCase then s else if f.unicode then s.ignoreCase else s.ignoreAsciiCase

def literal (f : Flags) (c : Char) : Pattern :=
  .chars (f.folded (.single c))

-- The dot. Without the flag for all scripts it could match half a character, which is refused.
def dot? (f : Flags) : Option Pattern :=
  let newlines :=
    if f.dotNewline then CharSet.none
    else if f.returnLines then .ofRanges [('\n', '\n'), ('\r', '\r')]
    else .single '\n'
  if f.unicode then some (.chars newlines.complement) else none

def caret (f : Flags) : Pattern :=
  f.assertion
    (if !f.multiLine then .textStart else if f.returnLines then .returnLineStart else .lineStart)

def dollar (f : Flags) : Pattern :=
  f.assertion (if !f.multiLine then .textEnd else if f.returnLines then .returnLineEnd else .lineEnd)

-- The class of a letter such as `\d`; a capital letter is its complement.
def letterClass? (f : Flags) (letter : Char) : Option CharSet :=
  let choose (all ascii : CharSet) := if f.unicode then all else ascii
  let complement (s : CharSet) := if f.unicode then some s.complement else none
  match letter with
  | 'd' => some (choose .digit .asciiDigit)
  | 's' => some (choose .space .asciiSpace)
  | 'w' => some (choose .word .asciiWord)
  | 'D' => complement .digit
  | 'S' => complement .space
  | 'W' => complement .word
  | _   => none

end Flags

structure ReadState where
  rest  : List Char
  flags : Flags
  -- The names of groups met so far.
  names : List String
  deriving Repr, Inhabited

abbrev Reading := StateT ReadState Option

namespace Reading

def require (b : Bool) : Reading Unit :=
  if b then pure () else failure

def rest : Reading (List Char) :=
  return (← get).rest

def setRest (rest : List Char) : Reading Unit :=
  modify fun s => { s with rest }

def flags : Reading Flags :=
  return (← get).flags

def setFlags (flags : Flags) : Reading Unit :=
  modify fun s => { s with flags }

-- Drops blanks and comments from the front of a pattern.
def dropBlanks : List Char → List Char
  | '#' :: rest => dropComment rest
  | c :: rest   => if Text.isBlank c then dropBlanks rest else c :: rest
  | []          => []
where
  dropComment : List Char → List Char
    | '\n' :: rest => dropBlanks rest
    | _ :: rest    => dropComment rest
    | []           => []

-- Skips what does not count in a verbose pattern.
def skip : Reading Unit := do
  if (← flags).verbose then setRest (dropBlanks (← rest))

-- The next character, which stays.
def peek : Reading Char := do
  match ← rest with
  | c :: _ => return c
  | []     => failure

def next : Reading Char := do
  match ← rest with
  | c :: rest =>
    setRest rest
    return c
  | [] => failure

def exactly (s : String) : Reading Unit := do
  let r ← rest
  require (s.toList.isPrefixOf r)
  setRest (r.drop s.length)

-- Reads the given characters if they come next, and tells whether they did.
def accept (s : String) : Reading Bool := do
  let r ← rest
  if s.toList.isPrefixOf r then
    setRest (r.drop s.length)
    return true
  else return false

-- What an escape or a plain character stands for.
inductive Atom
  | char (c : Char)
  | set (members : CharSet)
  | assertion (what : Assertion)

def isHexDigit (c : Char) : Bool :=
  c.isDigit || ('a' ≤ c && c ≤ 'f') || ('A' ≤ c && c ≤ 'F')

def hexValue (c : Char) : Nat :=
  if c.isDigit then c.toNat - '0'.toNat else c.toLower.toNat - 'a'.toNat + 10

-- The character with a code given in hexadecimal digits.
def charOfHex (digits : List Char) : Reading Char := do
  let code := digits.foldl (fun n c => n * 16 + hexValue c) 0
  require (!digits.isEmpty && digits.all isHexDigit && code.isValidChar)
  return Char.ofNat code

-- Reads the code of an escape such as `\x41` or `\x{41}` after its letter. Two digits are a byte where characters
-- are bytes, and a byte alone is no half of a character.
def hexEscape (count : Nat) : Reading Char := do
  if ← accept "\x7b" then
    let r ← rest
    let digits := r.takeWhile (· ≠ '\x7d')
    setRest (r.drop digits.length)
    exactly "\x7d"
    charOfHex digits
  else
    let r ← rest
    require (count ≤ r.length)
    setRest (r.drop count)
    let c ← charOfHex (r.take count)
    require ((← flags).unicode || count ≠ 2 || c.toNat < 0x80)
    return c

-- Characters that a backslash makes plain.
def isEscapable (c : Char) : Bool :=
  c.toNat < 0x80 && !c.isAlphanum && c ≠ '<' && c ≠ '>'

-- Reads the name in braces that may follow `\b`.
def boundaryKind : Reading Assertion := do
  let isNameChar (c : Char) : Bool := c.isAlpha || c = '-'
  match ← rest with
  | '\x7b' :: c :: _ =>
    if !isNameChar c then return .wordBoundary
    let r := (← rest).drop 1
    let name := r.takeWhile isNameChar
    setRest (r.drop name.length)
    exactly "\x7d"
    match String.ofList name with
    | "start"      => return .wordStart
    | "end"        => return .wordEnd
    | "start-half" => return .wordStartHalf
    | "end-half"   => return .wordEndHalf
    | _            => failure
  | ['\x7b'] => failure
  | _        => return .wordBoundary

-- Reads an escape after its backslash.
def escape : Reading Atom := do
  let c ← next
  match (← flags).letterClass? c with
  | some members => return .set members
  | none         =>
    if isEscapable c then return .char c
    match c with
    | 'x' => return .char (← hexEscape 2)
    | 'u' => return .char (← hexEscape 4)
    | 'U' => return .char (← hexEscape 8)
    | 'a' => return .char '\x07'
    | 'f' => return .char '\x0c'
    | 't' => return .char '\t'
    | 'n' => return .char '\n'
    | 'r' => return .char '\r'
    | 'v' => return .char '\x0b'
    | 'A' => return .assertion .textStart
    | 'z' => return .assertion .textEnd
    | 'b' => return .assertion (← boundaryKind)
    | 'B' => return .assertion .noWordBoundary
    | '<' => return .assertion .wordStart
    | '>' => return .assertion .wordEnd
    | _   => failure

-- Reads a class such as `[:alpha:]` inside brackets, if one comes next.
def namedClass? : Reading (Option CharSet) := do
  let saved ← get
  if !(← accept "[:") then return none
  let negated ← accept "^"
  let r ← rest
  let name := r.takeWhile (· ≠ ':')
  setRest (r.drop name.length)
  let closed ← accept ":]"
  match closed, CharSet.named? (String.ofList name) with
  | true, some set => return some (if negated then set.complement else set)
  | _, _           =>
    set saved
    return none

-- A class of bytes has no other characters.
def classAtom : Reading Atom := do
  let c ← next
  let atom ← if c = '\\' then escape else pure (.char c)
  match atom with
  | .char c => require ((← flags).unicode || c.toNat < 0x80)
  | _       => pure ()
  return atom

-- The next character but one, blanks not counted.
def peekSecond : Reading (Option Char) := do
  let r := (← rest).drop 1
  return (if (← flags).verbose then dropBlanks r else r).head?

-- Reads a range, a single character or a class such as `\d`.
def classItem : Reading CharSet := do
  let first ← classAtom
  skip
  let c ← peek
  let second ← peekSecond
  if c ≠ '-' || second = some ']' || second = some '-' then
    match first with
    | .char c     => return .single c
    | .set members => return members
    | .assertion _ => failure
  let _ ← next
  skip
  let last ← classAtom
  match first, last with
  | .char lo, .char hi =>
    require (lo ≤ hi)
    return .range lo.toNat hi.toNat
  | _, _ => failure

-- How two parts of a class are joined.
inductive Join
  | inter | diff | symmDiff

-- Reads the operator between two parts of a class.
def join? : Reading (Option Join) := do
  if ← accept "&&" then return some .inter
  if ← accept "--" then return some .diff
  if ← accept "~~" then return some .symmDiff
  return none

-- A class read so far: what stands before the last operator, and the part after it.
structure ClassState where
  joined : Option (CharSet × Join)
  part   : CharSet

def ClassState.value (flags : Flags) (s : ClassState) : CharSet :=
  match s.joined with
  | none              => s.part
  | some (left, join) =>
    let a := flags.folded left
    let b := flags.folded s.part
    match join with
    | .inter    => a.inter b
    | .diff     => a.diff b
    | .symmDiff => a.symmDiff b

-- Reads the start of a class: signs that are members because they stand first.
def classStart : Reading (Bool × CharSet) := do
  exactly "["
  skip
  let negated ← accept "^"
  skip
  let r ← rest
  let signs := r.takeWhile (· = '-')
  setRest (r.drop signs.length)
  skip
  let part := if signs.isEmpty then CharSet.none else .single '-'
  if signs.isEmpty && (← accept "]") then
    skip
    return (negated, .single ']')
  return (negated, part)

-- Reads a class in brackets, with classes nested no deeper than the bound.
def bracketClass : Nat → Reading CharSet
  | 0         => failure
  | depth + 1 => do
    let flags ← flags
    let (negated, part) ← classStart
    let value ← go depth flags (← rest).length { joined := none, part }
    let value := flags.folded value
    -- The complement of a class of bytes could match half a character.
    require (!negated || flags.unicode)
    return if negated then value.complement else value
where
  -- Each round reads at least one character.
  go (depth : Nat) (flags : Flags) : Nat → ClassState → Reading CharSet
    | 0, _         => failure
    | rounds + 1, s => do
      skip
      if ← accept "]" then return s.value flags
      match ← join? with
      | some join => go depth flags rounds { joined := some (s.value flags, join), part := .none }
      | none      =>
        let item ←
          if (← peek) = '[' then
            match ← namedClass? with
            | some set => pure set
            | none     => bracketClass depth
          else classItem
        go depth flags rounds { s with part := s.part.union item }

-- Reads a decimal number, around which blanks may stand.
def decimal : Reading Nat := do
  let r := (← rest).dropWhile Text.isBlank
  let digits := r.takeWhile Char.isDigit
  setRest ((r.drop digits.length).dropWhile Text.isBlank)
  let n := digits.foldl (fun n c => n * 10 + (c.toNat - '0'.toNat)) 0
  require (!digits.isEmpty && n < UInt32.size)
  return n

-- Reads the bounds of a repetition after their opening brace.
def bounds : Reading (Nat × Option Nat) := do
  skip
  let least ← decimal
  if ← accept "," then
    skip
    if ← accept "\x7d" then return (least, none)
    let most ← decimal
    exactly "\x7d"
    require (least ≤ most)
    return (least, some most)
  exactly "\x7d"
  return (least, some least)

-- Reads the sign of a repetition, if one comes next.
def repetition? : Reading (Option (Nat × Option Nat)) := do
  let bounds? ←
    if ← accept "?" then pure (some (0, some 1))
    else if ← accept "*" then pure (some (0, none))
    else if ← accept "+" then pure (some (1, none))
    else if ← accept "\x7b" then some <$> bounds
    else pure none
  if bounds?.isSome then
    skip
    -- A repetition that prefers fewer matches as many texts.
    let _ ← accept "?"
  return bounds?

-- Reads the flags of a group up to the colon or bracket that ends them.
def flagLetters (seen : List Char) (negated : Bool) (fresh : Bool) (flags : Flags) : List Char →
    Option (Flags × List Char)
  | []        => none
  | c :: rest =>
    if c = ':' || c = ')' then if fresh && negated then none else some (flags, c :: rest)
    else if c = '-' then if negated then none else flagLetters seen true true flags rest
    else if seen.contains c then none
    else do
      let flags ← flags.set? c (!negated)
      flagLetters (c :: seen) negated false flags rest

-- A name of a group.
def isGroupName (name : List Char) : Bool :=
  let isLetter (c : Char) : Bool := Text.isIdentifierPart c && !Text.isDecimalDigit c
  match name with
  | []        => false
  | c :: rest => isLetter c && rest.all fun c => Text.isIdentifierPart c || ['.', '[', ']'].contains c

-- Reads the name of a group up to the bracket that ends it.
def groupName : Reading Unit := do
  let r ← rest
  let name := r.takeWhile (· ≠ '>')
  setRest (r.drop name.length)
  exactly ">"
  require (isGroupName name)
  let name := String.ofList name
  require (!(← get).names.contains name)
  modify fun s => { s with names := name :: s.names }

-- Reads a group after its opening bracket. A group that only sets flags matches nothing by itself.
def group (inner : Reading Pattern) : Reading (Option Pattern) := do
  skip
  let saved ← flags
  let close : Reading (Option Pattern) := do
    let p ← inner
    exactly ")"
    setFlags saved
    return some p
  for look in ["?=", "?!", "?<=", "?<!"] do
    require (!look.toList.isPrefixOf (← rest))
  if (← accept "?P<") || (← accept "?<") then
    groupName
    close
  else if ← accept "?" then
    let r ← rest
    match flagLetters [] false false saved r with
    | none              => failure
    | some (flags, rest) =>
      let empty := rest.length = r.length
      setRest rest
      setFlags flags
      if ← accept ":" then close
      else
        exactly ")"
        require (!empty)
        return none
  else close

-- The alternatives read so far, and the items of the current one, the latest first.
structure Items where
  alternatives : Option Pattern
  items        : List (Option Pattern)

namespace Items

-- The items one after another. An item without a pattern is a group that sets flags.
def sequence (s : Items) : Pattern :=
  s.items.foldl (fun rest item => match item with
    | some p => if rest = .empty then p else .cat p rest
    | none   => rest) .empty

def value (s : Items) : Pattern :=
  match s.alternatives with
  | none   => s.sequence
  | some p => p.alt s.sequence

end Items

-- Reads a character, an escape, an assertion or a class outside brackets.
def simpleItem : Reading Pattern := do
  let flags ← flags
  if (← peek) = '[' then return .chars (← bracketClass 250)
  match ← next with
  | '.'  => flags.dot?
  | '^'  => return flags.caret
  | '$'  => return flags.dollar
  | '\\' =>
    match ← escape with
    | .char c         => return flags.literal c
    | .set members    => return .chars members
    | .assertion what => return flags.assertion what
  | c    => return flags.literal c

-- Reads alternatives up to a closing bracket or the end, with groups nested no deeper than the bound.
def alternatives : Nat → Reading Pattern
  | 0         => failure
  | depth + 1 => do
    go depth ((← rest).length + 1) { alternatives := none, items := [] }
where
  -- Each round but the last reads at least one character.
  go (depth : Nat) : Nat → Items → Reading Pattern
    | 0, _          => failure
    | rounds + 1, s => do
      skip
      if (← rest).isEmpty || (← rest).head? = some ')' then return s.value
      if ← accept "|" then return ← go depth rounds { alternatives := some s.value, items := [] }
      match ← repetition? with
      | some (least, most) =>
        match s.items with
        | some p :: items => go depth rounds { s with items := some (p.repeated least most) :: items }
        | _               => failure
      | none =>
        let item ← if ← accept "(" then group (alternatives depth) else some <$> simpleItem
        go depth rounds { s with items := item :: s.items }

end Reading

-- The pattern with the given written form, if it is well formed. Classes by category or script, such as `\p{Greek}`,
-- are not known.
def ofText? (text : String) : Option Pattern := do
  let (p, s) ← Reading.alternatives 250 { rest := text.toList, flags := .initial, names := [] }
  if s.rest.isEmpty then some p else none

end ErrorOrigins.Pattern
