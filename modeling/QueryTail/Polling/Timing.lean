import QueryTail.Settings.Basic

/-!
# The timing of polling
-/

namespace QueryTail.Polling

/-- How a run polls; times are in milliseconds. -/
structure Timing where
  /-- How many entries are asked of a node at a time. -/
  pageSize : Nat
  /-- The pause between the end of a round and the start of the next. -/
  interval : Nat
  /-- How long a fetch may take. -/
  timeout : Nat
  /-- How long it may take until a run notices that it was told to stop. -/
  patience : Nat
  deriving DecidableEq, Repr

/-- How long it may take until a run notices that it was told to stop, in milliseconds. -/
def standardPatience : Nat := 100

/-- The timing that settings ask for. -/
def Timing.ofSettings (settings : Settings) : Timing :=
  { pageSize := settings.pageSize
    interval := settings.interval
    timeout := settings.fetchTimeout
    patience := standardPatience }

end QueryTail.Polling
