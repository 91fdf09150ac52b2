import ErrorOrigins.Go.Reader
import ErrorOrigins.Text.Identifier

namespace ErrorOrigins.Go.Lexeme

open Reader

def isBlank (c : Char) : Bool :=
  c = ' ' || c = '\t' || c = '\r' || c = '\x0b' || c = '\x0c'

-- The length of a text up to the first `*/`, that included.
def closedLength? : List Char → Option Nat
  | '*' :: '/' :: _ => some 2
  | _ :: rest       => (closedLength? rest).map (· + 1)
  | []              => none

-- The length of the comment that a text starts with. An unclosed one is no comment.
def commentLength? : List Char → Option Nat
  | '/' :: '/' :: rest => some ((rest.takeWhile (· ≠ '\n')).length + 2)
  | '/' :: '*' :: rest => (closedLength? rest).map (· + 2)
  | _                  => none

-- Skips blanks and comments. Comments are kept aside.
def blanks (ends : Bool) : Reader Unit :=
  iterate (fun _ => do
    let c ← get
    match c.rest with
    | []        => return none
    | ch :: _ =>
      if isBlank ch || (ch = '\n' && !ends) then
        set c.next
        return some ()
      match commentLength? c.rest with
      | none   => return none
      | some n =>
        let c' := c.advance n
        set { c' with comments := .node "comment" none (c.extentTo c') [] :: c'.comments }
        return some ()) ()

-- Skips blanks, then reads exactly the given characters.
def token (s : String) (ends : Bool) : Reader Unit := do
  blanks ends
  exactly s

-- Reads a token if it comes next, and tells whether it did.
def token? (s : String) (ends : Bool) : Reader Bool :=
  return (← attempt (token s ends)).isSome

-- Like `token?`, for a token that is another one if the given characters follow it.
def tokenBut? (s follow : String) (ends : Bool) : Reader Bool :=
  return (← attempt do
    token s ends
    require (!(← startsWith follow.toList))).isSome

-- The token comes next.
def comes (s : String) (ends : Bool) : Reader Bool :=
  return (← ahead (token s ends)).isSome

-- Reads the end of a statement: a newline, a semicolon, a zero character or the end of the text.
def terminator : Reader Bool := do
  let start ← get
  blanks true
  match (← get).rest with
  | [] => return true
  | c :: _ =>
    if c = '\n' || c = ';' || c = '\x00' then
      modify Cursor.next
      return true
    else
      set start
      return false

-- Reads a word. Whether it is a keyword depends on the place.
def word : Reader String := do
  match (← get).rest with
  | c :: rest =>
    if Text.isIdentifierStart c then
      let rest := rest.takeWhile Text.isIdentifierPart
      modify (Cursor.advance (rest.length + 1))
      return String.ofList (c :: rest)
    else failure
  | [] => failure

-- The word that comes next, if a word does.
def nextWord? (ends : Bool) : Reader (Option String) :=
  ahead do
    blanks ends
    word

-- Reads the given keyword if it comes next, and tells whether it did.
def keyword? (s : String) (ends : Bool) : Reader Bool :=
  return (← attempt do
    blanks ends
    let w ← word
    require (w == s)).isSome

def keyword (s : String) (ends : Bool) : Reader Unit := do
  blanks ends
  let w ← word
  require (w == s)

-- Reads a word as a leaf.
def wordAs (kind : String) : Reader Tree := do
  let start ← get
  let _ ← word
  close start kind []

-- The length of a run of digits in which single low lines may stand between digits.
def digitsLength (isDigit : Char → Bool) : List Char → Nat
  | c :: rest => if isDigit c then more rest + 1 else 0
  | []        => 0
where
  more : List Char → Nat
    | '_' :: c :: rest => if isDigit c then more rest + 2 else 0
    | c :: rest        => if isDigit c then more rest + 1 else 0
    | []               => 0

def isDecimal (c : Char) : Bool :=
  '0' ≤ c && c ≤ '9'

def isOctal (c : Char) : Bool :=
  '0' ≤ c && c ≤ '7'

def isBinary (c : Char) : Bool :=
  c = '0' || c = '1'

def isHex (c : Char) : Bool :=
  isDecimal c || ('a' ≤ c && c ≤ 'f') || ('A' ≤ c && c ≤ 'F')

-- Lengths of what a text may start with. A pattern gives all lengths at which it can stop.
abbrev Lengths := List Char → List Nat

namespace Lengths

def char (p : Char → Bool) : Lengths
  | c :: _ => if p c then [1] else []
  | []     => []

-- A run of digits. It can stop at any digit, but only the longest matters here.
def digits (isDigit : Char → Bool) : Lengths := fun text =>
  match digitsLength isDigit text with
  | 0     => []
  | n + 1 => [n + 1]

def seq (a b : Lengths) : Lengths := fun text =>
  (a text).flatMap fun n => (b (text.drop n)).map (n + ·)

def alt (a b : Lengths) : Lengths := fun text =>
  a text ++ b text

def optional (a : Lengths) : Lengths := fun text =>
  a text ++ [0]

def longest (a : Lengths) (text : List Char) : Nat :=
  (a text).foldl max 0

end Lengths

open Lengths in
def exponent (marks : Char → Bool) : Lengths :=
  (char marks).seq ((char fun c => c = '+' || c = '-').optional.seq (digits isDecimal))

open Lengths in
def intLengths : Lengths :=
  let zero := char (· = '0')
  let low := (char (· = '_')).optional
  let based (marks : Char → Bool) (isDigit : Char → Bool) :=
    zero.seq ((char marks).seq (low.seq (digits isDigit)))
  alt (based (fun c => c = 'b' || c = 'B') isBinary) <|
  alt (based (fun c => c = 'x' || c = 'X') isHex) <|
  alt (zero.seq ((char fun c => c = 'o' || c = 'O').optional.seq (low.seq (digits isOctal)))) <|
  alt zero ((char fun c => '1' ≤ c && c ≤ '9').seq (low.seq (digits isDecimal)).optional)

open Lengths in
def floatLengths : Lengths :=
  let dot := char (· = '.')
  let tenPower := exponent fun c => c = 'e' || c = 'E'
  let hexMark := (char (· = '0')).seq (char fun c => c = 'x' || c = 'X')
  let hexDigits := (char (· = '_')).optional.seq (digits isHex)
  let mantissa :=
    alt (hexDigits.seq (dot.seq (digits isHex).optional)) (alt hexDigits (dot.seq (digits isHex)))
  alt ((digits isDecimal).seq (dot.seq ((digits isDecimal).optional.seq tenPower.optional))) <|
  alt ((digits isDecimal).seq tenPower) <|
  alt (dot.seq ((digits isDecimal).seq tenPower.optional)) <|
  hexMark.seq (mantissa.seq (exponent fun c => c = 'p' || c = 'P'))

open Lengths in
def imaginaryLengths : Lengths :=
  (alt (digits isDecimal) (alt intLengths floatLengths)).seq (char (· = 'i'))

-- Reads the longest number that comes next.
def number : Reader Tree := do
  let start ← get
  let int := intLengths.longest start.rest
  let float := floatLengths.longest start.rest
  let imaginary := imaginaryLengths.longest start.rest
  let n := max int (max float imaginary)
  require (n > 0)
  modify (Cursor.advance n)
  let kind :=
    if n = imaginary then "imaginary_literal" else if n = float then "float_literal" else "int_literal"
  close start kind []

-- The number of hexadecimal digits that an escape such as `\x` asks for.
def escapeDigits : Char → Nat
  | 'x' => 2
  | 'u' => 4
  | 'U' => 8
  | _   => 0

-- The length of the inside of a string and its closing quote.
def stringLength? : List Char → Option Nat
  | '"' :: _         => some 1
  | '\n' :: _        => none
  | '\\' :: c :: rest =>
    if (rest.take (escapeDigits c)).length = escapeDigits c && (rest.take (escapeDigits c)).all isHex then
      (stringLength? rest).map (· + 2)
    else none
  | '\\' :: []       => none
  | _ :: rest        => (stringLength? rest).map (· + 1)
  | []               => none

def rawStringLength? (text : List Char) : Option Nat :=
  let inside := text.takeWhile (· ≠ '\x60')
  if inside.length < text.length then some (inside.length + 1) else none

-- The length of what a backslash starts in a rune, the backslash not counted.
def runeEscapeLength? : List Char → Option Nat
  | c :: rest =>
    if escapeDigits c > 0 then
      let digits := rest.take (escapeDigits c)
      if digits.length = escapeDigits c && digits.all isHex then some (escapeDigits c + 1) else none
    else if isOctal c then
      let digits := rest.take 2
      if digits.length = 2 && digits.all isOctal then some 3 else none
    else if ['a', 'b', 'f', 'n', 'r', 't', 'v', '\\', '\'', '"'].contains c then some 1
    else none
  | [] => none

-- The length of a rune's inside and its closing quote.
def runeLength? : List Char → Option Nat
  | '\\' :: rest => do
    let n ← runeEscapeLength? rest
    if rest[n]? = some '\'' then some (n + 2) else none
  | '\'' :: _       => none
  | _ :: '\'' :: _  => some 2
  | _               => none

-- Reads a string literal, a raw one or a rune.
def quoted : Reader Tree := do
  let start ← get
  let (kind, n?) ← match start.rest with
    | '"' :: rest    => pure ("interpreted_string_literal", stringLength? rest)
    | '\x60' :: rest => pure ("raw_string_literal", rawStringLength? rest)
    | '\'' :: rest   => pure ("rune_literal", runeLength? rest)
    | _              => failure
  match n? with
  | none   => failure
  | some n =>
    modify (Cursor.advance (n + 1))
    close start kind []

-- Reads a string literal of either form.
def stringLiteral : Reader Tree := do
  let t ← quoted
  require (t.kind ≠ "rune_literal")
  return t

end ErrorOrigins.Go.Lexeme
