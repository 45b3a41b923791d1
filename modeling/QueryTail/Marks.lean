import QueryTail.Entry.Basic
import Std.Data.HashMap.Lemmas

/-!
# Marks on recent rows

Which keys arrived recently. Every mark runs out at a time of its own, so that a later burst of
arrivals neither shortens nor lengthens earlier marks. Times are milliseconds on any clock; the
caller passes the current time.
-/

namespace QueryTail

/-- The marked keys and the times at which their marks run out. -/
structure Marks where
  lifetime : Nat
  expiries : Std.HashMap Key Nat

namespace Marks

/-- No marks; every mark will last for the given time. -/
def empty (lifetime : Nat) : Marks :=
  ⟨lifetime, ∅⟩

/-- The number of marks held, whether run out or not. -/
def size (marks : Marks) : Nat :=
  marks.expiries.size

/-- Mark keys at a time. A key that is marked already starts anew. -/
def mark (marks : Marks) (keys : List Key) (now : Nat) : Marks :=
  { marks with
    expiries := keys.foldl (fun held key => held.insert key (now + marks.lifetime)) marks.expiries }

/-- A key has a mark that has not run out. -/
def isMarked (marks : Marks) (key : Key) (now : Nat) : Bool :=
  match marks.expiries[key]? with
  | some expiry => decide (now < expiry)
  | none => false

/-- Remove the marks that have run out; also tells how many. -/
def expire (marks : Marks) (now : Nat) : Marks × Nat :=
  let left := marks.expiries.filter fun _ expiry => decide (now < expiry)
  ({ marks with expiries := left }, marks.expiries.size - left.size)

/-- Remove the marks of the keys that are not to be kept. -/
def retain (marks : Marks) (keep : Key → Bool) : Marks :=
  { marks with expiries := marks.expiries.filter fun key _ => keep key }

/-- Remove all marks. -/
def clear (marks : Marks) : Marks :=
  empty marks.lifetime

/-! ### Runs -/

/-- One operation on marks. -/
inductive Operation where
  | mark (keys : List Key) (now : Nat)
  | expire (now : Nat)
  | retain (keep : Key → Bool)
  | clear

/-- The marks after one operation. -/
def apply (marks : Marks) : Operation → Marks
  | .mark keys now => marks.mark keys now
  | .expire now => (marks.expire now).1
  | .retain keep => marks.retain keep
  | .clear => marks.clear

/-- The marks after a run of operations. -/
def run (marks : Marks) (operations : List Operation) : Marks :=
  operations.foldl apply marks

end Marks

end QueryTail
