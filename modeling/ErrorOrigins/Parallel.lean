import ErrorOrigins.Halt

namespace ErrorOrigins

-- How work is shared: for a number of items, how many of them the workers get. What is left is for one more worker.
structure Shares where
  sizes : Nat → List Nat

namespace Shares

variable {α β : Type}

-- The parts of a list that have these sizes, and what is left of it.
def pieces : List Nat → List α → List (List α)
  | [], items            => [items]
  | size :: sizes, items => items.take size :: pieces sizes (items.drop size)

-- Works on each part of a list alone, and puts what comes of it in the order of the parts.
def collect (s : Shares) (work : List α → Except Halt (List β)) (items : List α) : Except Halt (List β) :=
  return (← (pieces (s.sizes items.length) items).mapM work).flatten

end Shares
end ErrorOrigins
