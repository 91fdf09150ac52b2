import ErrorOrigins.Pattern.CharSet

namespace ErrorOrigins

-- Conditions on a place in a text.
inductive Assertion
  | textStart
  | textEnd
  | lineStart
  | lineEnd
  -- Line starts and ends where a carriage return counts as well.
  | returnLineStart
  | returnLineEnd
  | wordBoundary
  | noWordBoundary
  | wordStart
  | wordEnd
  -- No word character stands before the place.
  | wordStartHalf
  -- No word character stands after the place.
  | wordEndHalf
  deriving DecidableEq, Repr, Inhabited

-- The characters around a place, where there are any.
structure Around where
  before : Option Char
  after  : Option Char
  deriving DecidableEq, Repr, Inhabited

namespace Assertion

-- The assertion holds at a place, when `isWord` tells what a word character is.
def holds (isWord : Char → Bool) (a : Around) : Assertion → Bool
  | textStart       => a.before.isNone
  | textEnd         => a.after.isNone
  | lineStart       => a.before.all (· = '\n')
  | lineEnd         => a.after.all (· = '\n')
  | returnLineStart => a.before.all fun c => c = '\n' || (c = '\r' && a.after != some '\n')
  | returnLineEnd   => a.after.all fun c => c = '\r' || (c = '\n' && a.before != some '\r')
  | wordBoundary    => a.before.any isWord != a.after.any isWord
  | noWordBoundary  => a.before.any isWord == a.after.any isWord
  | wordStart       => !a.before.any isWord && a.after.any isWord
  | wordEnd         => a.before.any isWord && !a.after.any isWord
  | wordStartHalf   => !a.before.any isWord
  | wordEndHalf     => !a.after.any isWord

end Assertion

inductive Pattern
  | empty
  | chars (set : Pattern.CharSet)
  | assert (what : Assertion) (wordSet : Pattern.CharSet)
  | cat (p q : Pattern)
  | alt (p q : Pattern)
  | star (p : Pattern)
  deriving DecidableEq, Repr, Inhabited

namespace Pattern

-- The pattern matches the empty text at a place.
def nullable (a : Around) : Pattern → Bool
  | empty            => true
  | chars _          => false
  | assert what set  => what.holds set.has a
  | cat p q          => p.nullable a && q.nullable a
  | alt p q          => p.nullable a || q.nullable a
  | star _           => true

-- One pattern after another.
def andThen (p q : Pattern) : Pattern :=
  if p = empty then q else cat p q

-- What is left of a pattern after a character that stands at a place.
def derivatives (a : Around) (c : Char) : Pattern → List Pattern
  | empty      => []
  | chars set  => if set.has c then [empty] else []
  | assert _ _ => []
  | cat p q    =>
    (p.derivatives a c).map (·.andThen q) ++ (if p.nullable a then q.derivatives a c else [])
  | alt p q    => p.derivatives a c ++ q.derivatives a c
  | star p     => (p.derivatives a c).map (·.andThen (star p))

-- Some part of the text matches.
def matchesText (p : Pattern) (text : String) : Bool :=
  go none text.toList []
where
  -- `begun` are the patterns left over from parts that have begun. A part may begin at every place.
  go (before : Option Char) (rest : List Char) (begun : List Pattern) : Bool :=
    let begun := (p :: begun).eraseDups
    let a := { before, after := rest.head? }
    if begun.any (·.nullable a) then true else
      match rest with
      | []        => false
      | c :: rest => go (some c) rest (begun.flatMap (·.derivatives a c))

-- A pattern or nothing.
def optional (p : Pattern) : Pattern :=
  alt p empty

-- A pattern as often as the bounds allow.
def repeated (p : Pattern) (least : Nat) (most : Option Nat) : Pattern :=
  let tail :=
    match most with
    | none      => star p
    | some most => Nat.repeat (fun rest => optional (p.andThen rest)) (most - least) empty
  Nat.repeat (fun rest => p.andThen rest) least tail

end Pattern
end ErrorOrigins
