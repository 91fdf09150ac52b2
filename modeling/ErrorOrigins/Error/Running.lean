import ErrorOrigins.Error.Basic

namespace ErrorOrigins

-- Computations that end in an error, or are halted.
abbrev Running := ExceptT Error (Except Halt)

namespace Running

variable {α : Type}

-- Ends in an error that gets a cause first.
def throwWith (e : Error) (cause : Cause) : Running α := do
  throw (← e.setCause cause)

-- Ends in the error of a fault, with what is noted on it.
def throwFault (f : Fault) (note : Error → Error) : Running α := do
  throw (note (← Error.ofFault f))

def mapError (f : Error → Error) (x : Running α) : Running α :=
  ExceptT.mk (x.run.map (Except.mapError f))

-- Drops an error, but not a halt.
def attempt (x : Running α) : Except Halt (Option α) :=
  x.run.map Except.toOption

end Running
end ErrorOrigins
