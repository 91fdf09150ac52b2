import ErrorOrigins.Halt
import ErrorOrigins.Audit.Event

namespace ErrorOrigins

-- The descriptors of one function's errors.
structure Origin where
  function    : String
  location    : Location
  descriptors : List String
  deriving DecidableEq, Repr, Inhabited

structure Findings where
  origins      : List Origin
  wrappedCount : UInt64
  constCount   : UInt64
  deriving DecidableEq, Repr, Inhabited

-- The sum of two counters, if a counter can hold it.
def checkedAdd (m n : UInt64) : Except Halt UInt64 :=
  if m.toNat + n.toNat < UInt64.size then .ok (m + n) else .error .counterOverflow

namespace Findings

def empty : Findings :=
  { origins := [], wrappedCount := 0, constCount := 0 }

-- The origins of both, one after the other, and the sums of the counters.
def merge (a b : Findings) : Except Halt Findings := do
  let wrappedCount ← checkedAdd a.wrappedCount b.wrappedCount
  let constCount ← checkedAdd a.constCount b.constCount
  return { origins := a.origins ++ b.origins, wrappedCount, constCount }

def mergeAll (parts : List Findings) : Except Halt Findings :=
  parts.foldlM merge empty

end Findings

-- Findings so far, and the descriptors met since the current function was entered.
structure Collector where
  findings : Findings
  pending  : List String
  deriving DecidableEq, Repr, Inhabited

namespace Collector

-- A collector that goes on from earlier findings.
def ofFindings (findings : Findings) : Collector :=
  { findings, pending := [] }

def start : Collector :=
  ofFindings .empty

-- Entering a function forgets what is pending. Leaving one records it, if there is anything.
def step (c : Collector) : Event → Collector
  | .enter _     => { c with pending := [] }
  | .site _ site => if site.hasDescriptor then { c with pending := c.pending ++ [site.descriptor] } else c
  | .leave scope =>
    if c.pending.isEmpty then c else
      let origin := { function := scope.function.name, location := scope.location, descriptors := c.pending }
      { findings := { c.findings with origins := c.findings.origins ++ [origin] }, pending := [] }

def steps (c : Collector) (events : List Event) : Collector :=
  events.foldl step c

def addTree (c : Collector) (t : SourceTree) : Collector :=
  c.steps t.events

end Collector

-- The findings of some trees, gathered by one collector.
def collect (trees : List SourceTree) : Findings :=
  (trees.foldl Collector.addTree .start).findings

end ErrorOrigins
