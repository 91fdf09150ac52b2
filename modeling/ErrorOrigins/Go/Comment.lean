import ErrorOrigins.Go.Tree

namespace ErrorOrigins.Go

-- The first part covers the second.
def Extent.covers (e e' : Extent) : Bool :=
  e.first ≤ e'.first && e'.stop ≤ e.stop

namespace Tree

mutual

-- Puts a comment into a node, before the first part that starts after it.
def insertComment (comment : Tree) : Tree → Tree
  | node kind role extent children => node kind role extent (insertAmong comment children)

def insertAmong (comment : Tree) : List Tree → List Tree
  | []              => [comment]
  | child :: rest =>
    if child.extent.covers comment.extent then insertComment comment child :: rest
    else if comment.extent.stop ≤ child.extent.first then comment :: child :: rest
    else child :: insertAmong comment rest

end

def insertComments (t : Tree) (comments : List Tree) : Tree :=
  comments.foldl (fun t comment => insertComment comment t) t

end Tree
end ErrorOrigins.Go
