import ErrorOrigins.Go.Tree

namespace ErrorOrigins.Go

-- The text still to read, where it starts, and the comments met so far, the latest first.
structure Cursor where
  rest     : List Char
  length   : Nat
  row      : Nat
  column   : Nat
  offset   : Nat
  comments : List Tree
  deriving Repr, Inhabited

namespace Cursor

def ofChars (text : List Char) : Cursor :=
  { rest := text, length := text.length, row := 0, column := 0, offset := 0, comments := [] }

-- The cursor after one more character. Columns count bytes.
def next (c : Cursor) : Cursor :=
  match c.rest with
  | []        => c
  | ch :: rest =>
    let bytes := ch.utf8Size
    if ch = '\n' then
      { c with rest, length := c.length - 1, row := c.row + 1, column := 0, offset := c.offset + bytes }
    else
      { c with rest, length := c.length - 1, column := c.column + bytes, offset := c.offset + bytes }

def advance : Nat → Cursor → Cursor
  | 0, c     => c
  | n + 1, c => advance n c.next

-- The part of the text between two cursors.
def extentTo (c c' : Cursor) : Extent :=
  { row := c.row, column := c.column, first := c.offset, stop := c'.offset }

end Cursor

abbrev Reader := StateT Cursor Option

namespace Reader

def startsWith (s : List Char) : Reader Bool :=
  return s.isPrefixOf (← get).rest

-- Reads exactly the given characters.
def exactly (s : String) : Reader Unit := do
  let s := s.toList
  if ← startsWith s then modify (Cursor.advance s.length) else failure

-- Runs a reader and puts the text back, whether it succeeds or not.
def ahead (r : Reader α) : Reader (Option α) := fun c =>
  match r c with
  | some (a, _) => some (some a, c)
  | none        => some (none, c)

-- Runs a reader and puts the text back if it fails.
def attempt (r : Reader α) : Reader (Option α) := fun c =>
  match r c with
  | some (a, c') => some (some a, c')
  | none         => some (none, c)

def require (b : Bool) : Reader Unit :=
  if b then pure () else failure

-- Repeats a step until it gives nothing. The count of characters left bounds the repetition, since each
-- step but the last takes one.
def iterate (step : α → Reader (Option α)) (a : α) : Reader α := fun c =>
  go (c.length + 1) a c
where
  go : Nat → α → Cursor → Option (α × Cursor)
    | 0, _, _     => none
    | n + 1, a, c =>
      match step a c with
      | none               => none
      | some (none, c')    => some (a, c')
      | some (some a', c') => go n a' c'

-- Repeats a reader until it gives nothing, and collects what it gives.
def many (item : Reader (Option α)) : Reader (List α) := do
  let items ← iterate (fun items => return (← item).map (· :: items)) []
  return items.reverse

-- A node that starts at an earlier cursor and ends here.
def close (start : Cursor) (kind : String) (children : List Tree) : Reader Tree :=
  return .node kind none (start.extentTo (← get)) children

-- A node that starts with the given tree and ends here.
def closeFrom (start : Tree) (kind : String) (children : List Tree) : Reader Tree :=
  return .node kind none { start.extent with stop := (← get).offset } children

end Reader
end ErrorOrigins.Go
