namespace ErrorOrigins

-- A place in a text: line and byte column, both counted from one.
structure Position where
  line   : UInt32
  column : UInt32
  deriving DecidableEq, Repr, Inhabited

namespace Position

def text (p : Position) : String :=
  toString p.line ++ ":" ++ toString p.column

-- Earlier lines come first, and on one line earlier columns.
def le (p q : Position) : Bool :=
  p.line < q.line || (p.line == q.line && p.column ≤ q.column)

end Position

-- A place together with the file it lies in, if the text has one.
structure Location where
  file     : Option String
  position : Position
  deriving DecidableEq, Repr, Inhabited

def Location.text (l : Location) : String :=
  match l.file with
  | none      => l.position.text
  | some file => file ++ ":" ++ l.position.text

end ErrorOrigins
