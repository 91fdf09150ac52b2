import ErrorOrigins.Text.Blank
import ErrorOrigins.Text.CaseFold
import ErrorOrigins.Text.Word

namespace ErrorOrigins.Pattern

inductive CharSet
  | none
  | range (lo hi : Nat)
  | digit
  | space
  | word
  | union (a b : CharSet)
  | inter (a b : CharSet)
  | diff (a b : CharSet)
  | complement (a : CharSet)
  -- Everything that differs from a member in case at most.
  | ignoreCase (a : CharSet)
  -- The same for ASCII letters only.
  | ignoreAsciiCase (a : CharSet)
  deriving DecidableEq, Repr, Inhabited

namespace CharSet

def has : CharSet → Char → Bool
  | none, _              => false
  | range lo hi, c       => lo ≤ c.toNat && c.toNat ≤ hi
  | digit, c             => Text.isDecimalDigit c
  | space, c             => Text.isBlank c
  | word, c              => Text.isWordChar c
  | union a b, c         => a.has c || b.has c
  | inter a b, c         => a.has c && b.has c
  | diff a b, c          => a.has c && !b.has c
  | complement a, c      => !a.has c
  | ignoreCase a, c      => (Text.caseVariants c).any a.has
  | ignoreAsciiCase a, c => a.has c || a.has c.toLower || a.has c.toUpper

def single (c : Char) : CharSet :=
  range c.toNat c.toNat

def ofRanges (ranges : List (Char × Char)) : CharSet :=
  ranges.foldl (fun s (lo, hi) => s.union (range lo.toNat hi.toNat)) none

-- The members of exactly one of two sets.
def symmDiff (a b : CharSet) : CharSet :=
  (a.diff b).union (b.diff a)

def any : CharSet :=
  complement none

def asciiDigit : CharSet :=
  ofRanges [('0', '9')]

def asciiSpace : CharSet :=
  ofRanges [('\t', '\r'), (' ', ' ')]

def asciiWord : CharSet :=
  ofRanges [('0', '9'), ('A', 'Z'), ('_', '_'), ('a', 'z')]

-- The sets that are known by a name between colons.
def named? (name : String) : Option CharSet :=
  match name with
  | "alnum"  => some (ofRanges [('0', '9'), ('A', 'Z'), ('a', 'z')])
  | "alpha"  => some (ofRanges [('A', 'Z'), ('a', 'z')])
  | "ascii"  => some (ofRanges [('\x00', '\x7f')])
  | "blank"  => some (ofRanges [('\t', '\t'), (' ', ' ')])
  | "cntrl"  => some (ofRanges [('\x00', '\x1f'), ('\x7f', '\x7f')])
  | "digit"  => some asciiDigit
  | "graph"  => some (ofRanges [('!', '~')])
  | "lower"  => some (ofRanges [('a', 'z')])
  | "print"  => some (ofRanges [(' ', '~')])
  | "punct"  => some (ofRanges [('!', '/'), (':', '@'), ('[', '\x60'), ('\x7b', '~')])
  | "space"  => some asciiSpace
  | "upper"  => some (ofRanges [('A', 'Z')])
  | "word"   => some asciiWord
  | "xdigit" => some (ofRanges [('0', '9'), ('A', 'F'), ('a', 'f')])
  | _        => Option.none

end CharSet
end ErrorOrigins.Pattern
