import ErrorOrigins.Text.Blank

namespace ErrorOrigins.Text

-- A text without characters of some kind at its ends.
def trim (p : Char → Bool) (text : List Char) : List Char :=
  ((text.dropWhile p).reverse.dropWhile p).reverse

end ErrorOrigins.Text
