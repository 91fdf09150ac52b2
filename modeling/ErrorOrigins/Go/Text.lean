import ErrorOrigins.Go.Comment
import ErrorOrigins.Go.DeclarationPhrase

namespace ErrorOrigins.Go

namespace Phrase

-- Reads a phrase with the given reader for the phrases inside it.
def readWith (self : PhraseReader) : PhraseReader
  | .type ends mixed  => TypePhrase.type self ends mixed
  | .parameters       => TypePhrase.parameters self
  | .unary ctx        => ExpressionPhrase.unary self ctx
  | .expression ctx   => ExpressionPhrase.expression self ctx
  | .literalValue     => ExpressionPhrase.literalValue self
  | .block            => StatementPhrase.block self
  | .statement        => StatementPhrase.statement self
  | .ifStatement      => StatementPhrase.ifStatement self

-- Reads a phrase in which phrases nest no deeper than the given bound.
def read : Nat → PhraseReader
  | 0         => fun _ => failure
  | depth + 1 => readWith (read depth)

end Phrase

-- The character that may stand at the start of a text to tell the order of bytes.
def byteOrderMark : Char :=
  '\ufeff'

-- The tree of a text with its comments, or nothing if the text is no Go. Phrases cannot nest deeper than
-- eight to each character, since of the phrases around a character only a few start at it.
def readText (text : List Char) : Option Tree := do
  let start := Cursor.ofChars text
  let start := if text.head? = some byteOrderMark then start.next else start
  let (tree, stop) ← DeclarationPhrase.sourceFile (Phrase.read (8 * (text.length + 1))) start
  return tree.insertComments stop.comments.reverse

end ErrorOrigins.Go
