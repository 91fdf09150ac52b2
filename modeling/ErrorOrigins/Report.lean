import ErrorOrigins.Audit.Findings
import ErrorOrigins.Audit.Diagnostic

namespace ErrorOrigins

-- When a report is printed in colors.
inductive ColorMode
  | auto
  | always
  | never
  deriving DecidableEq, Repr, Inhabited

namespace ColorMode

def ofText? : String → Option ColorMode
  | "auto"   => some auto
  | "always" => some always
  | "never"  => some never
  | _        => none

-- Colors by default are for terminals.
def usesColors (isTerminal : Bool) : ColorMode → Bool
  | auto   => isTerminal
  | always => true
  | never  => false

end ColorMode

inductive Report
  | origins (findings : Findings)
  | diagnostics (list : List Diagnostic)
  deriving DecidableEq, Repr, Inhabited

namespace Report

def size : Report → Nat
  | origins findings => findings.origins.length
  | diagnostics list => list.length

def white : String := "\x1b[37m"

def red : String := "\x1b[31m"

def reset : String := "\x1b[0m"

def line (colors : Bool) (color text : String) : String :=
  if colors then color ++ text ++ reset ++ "\n" else text ++ "\n"

-- A line for the function, and one for each of its descriptors.
def originText (colors : Bool) (o : Origin) : String :=
  line colors white (o.location.text ++ ":  " ++ o.function)
    ++ String.join (o.descriptors.map fun d => line colors red ("---" ++ d ++ " "))

-- Diagnostics have no colors.
def text (colors : Bool) : Report → String
  | origins findings => String.join (findings.origins.map (originText colors))
  | diagnostics list => String.join (list.map fun d => d.text ++ "\n")

end Report
end ErrorOrigins
