import Phrasebook.Decimal.Binary64

/-!
# Counting loads

Four counters of what a loader does, and the report with the two rates that follow from them. A
load that finds its locale loaded is a hit; any other is a miss and starts a fetch, which may fail.
-/

namespace Phrasebook

/-- What is counted. -/
inductive LoadEvent
  | hit
  | miss
  | fetch
  | failure
  deriving DecidableEq, Repr

/-- How often each event has happened. The numbers are unbounded and stand for counters of 64 bits,
which wrap at `2 ^ 64`: none of them gets there before as many loads have begun, as
`Course.counters_lt_size` shows. -/
structure Counters where
  hits : Nat := 0
  misses : Nat := 0
  fetches : Nat := 0
  failures : Nat := 0
  deriving DecidableEq, Repr, Inhabited

namespace Counters

/-- Counts one more event. -/
def record (c : Counters) : LoadEvent → Counters
  | .hit => { c with hits := c.hits + 1 }
  | .miss => { c with misses := c.misses + 1 }
  | .fetch => { c with fetches := c.fetches + 1 }
  | .failure => { c with failures := c.failures + 1 }

end Counters

/-- The counters with the rates that follow from them, which are percentages. -/
structure Metrics where
  counters : Counters
  hitRate : Binary64
  fetchSuccessRate : Binary64
  deriving DecidableEq, Repr

/-- The report on some counters. A rate of nothing is zero, and more failures than fetches count as
no success. -/
def Counters.report (c : Counters) : Metrics where
  counters := c
  hitRate := Binary64.percentage c.hits (c.hits + c.misses)
  fetchSuccessRate := Binary64.percentage (c.fetches - c.failures) c.fetches

end Phrasebook
