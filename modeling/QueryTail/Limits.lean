/-!
# Limits

The ranges of the numbers that a user may choose, and what is used when nothing is chosen.
-/

namespace QueryTail

/-- The range of a number, and the number that is used by default. -/
structure Limits where
  least : Nat
  greatest : Nat
  standard : Nat
  least_le_standard : least ≤ standard := by decide
  standard_le_greatest : standard ≤ greatest := by decide

namespace Limits

/-- A number lies in the range. -/
def holds (limits : Limits) (value : Nat) : Bool :=
  limits.least ≤ value && value ≤ limits.greatest

/-- The number of the range that is nearest to a number. -/
def clamp (limits : Limits) (value : Nat) : Nat :=
  min (max value limits.least) limits.greatest

/-- The range as a text. -/
def text (limits : Limits) : String :=
  s!"{limits.least}-{limits.greatest}"

/-- Limits hold of a value when it lies between both, ends included. -/
theorem holds_iff {limits : Limits} {value : Nat} :
    limits.holds value = true ↔ limits.least ≤ value ∧ value ≤ limits.greatest := by
  simp [holds]

/-- The default lies in the range. -/
theorem holds_standard (limits : Limits) : limits.holds limits.standard = true :=
  holds_iff.2 ⟨limits.least_le_standard, limits.standard_le_greatest⟩

/-- A clamped number lies in the range. -/
theorem holds_clamp (limits : Limits) (value : Nat) :
    limits.holds (limits.clamp value) = true := by
  have first := limits.least_le_standard
  have second := limits.standard_le_greatest
  rw [holds_iff, clamp]
  omega

/-- A number of the range is not changed by clamping. -/
theorem clamp_of_holds {limits : Limits} {value : Nat} (inside : limits.holds value = true) :
    limits.clamp value = value := by
  rw [holds_iff] at inside
  unfold clamp
  omega

/-- How many rows a window holds at most. -/
def capacity : Limits := ⟨1, 10000, 100, by decide, by decide⟩

/-- How many entries are asked of a node at a time. -/
def pageSize : Limits := ⟨1, 1000, 100, by decide, by decide⟩

/-- The pause between two rounds of polling, in milliseconds. -/
def interval : Limits := ⟨250, 60000, 2000, by decide, by decide⟩

/-- How long a fetch may take, in milliseconds. -/
def fetchTimeout : Limits := ⟨100, 120000, 10000, by decide, by decide⟩

/-- How long a row is shown as new, in seconds. -/
def highlight : Limits := ⟨1, 300, 10, by decide, by decide⟩

end Limits

end QueryTail
