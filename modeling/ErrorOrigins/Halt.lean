namespace ErrorOrigins

-- Why a run stops: a promise between two of its parts is broken.
inductive Halt
  | counterOverflow
  | causeAlreadySet
  deriving DecidableEq, Repr, Inhabited

def Halt.message : Halt → String
  | counterOverflow => "attempt to add with overflow"
  | causeAlreadySet => "source error already set"

end ErrorOrigins
