import Mathlib.Data.Finset.Card
import QueryTail.Proofs.Marks

/-!
# Marks of different keys are independent

One table holds the times at which all marks run out. A key nevertheless sees a timer of its own
(`Operation.timer`): an operation either starts the timer of the key anew or removes it, or leaves
it alone, and what it does to the timers of other keys plays no part. A run of operations is
therefore the run of one timer for each key (`getElem?_run`).

What a timer shows is told by the latest mark of its key and the operations since. No order among
the times of a run is assumed. A mark that was removed stays removed if time goes backwards, and a
mark that has run out but was not removed still counts at an earlier time.
-/

namespace QueryTail

namespace Marks

variable {marks : Marks} {operation : Operation} {operations since : List Operation} {key : Key}
  {lifetime time expiry now : Nat}

/-! ### The timer of a key -/

namespace Operation

/-- The time at which the operation marks a key, if it does. -/
def marks? (key : Key) : Operation → Option Nat
  | .mark keys now => if key ∈ keys then some now else none
  | .expire _ | .retain _ | .clear => none

/-- The operation removes a mark of the key that runs out at the given time. -/
def removes (key : Key) (expiry : Nat) : Operation → Bool
  | .mark _ _ => false
  | .expire now => decide (expiry ≤ now)
  | .retain keep => !keep key
  | .clear => true

/-- The time at which the mark of a key runs out after the operation, from the one before. -/
def timer (key : Key) (lifetime : Nat) (held : Option Nat) (operation : Operation) : Option Nat :=
  match operation.marks? key with
  | some time => some (time + lifetime)
  | none => held.filter fun expiry => !operation.removes key expiry

/-- The operation with only one key among those that it marks. -/
def restrict (key : Key) : Operation → Operation
  | .mark keys now => .mark (keys.filter (· = key)) now
  | .expire now => .expire now
  | .retain keep => .retain keep
  | .clear => .clear

/-- An operation that marks a key sets its timer to a whole lifetime. -/
theorem timer_of_marks (marked : operation.marks? key = some time) (held : Option Nat) :
    operation.timer key lifetime held = some (time + lifetime) := by
  rw [timer, marked]

/-- An operation that does not mark a key keeps its timer or removes it. -/
theorem timer_of_not_marks (silent : operation.marks? key = none) (held : Option Nat) :
    operation.timer key lifetime held =
      held.filter fun expiry => !operation.removes key expiry := by
  rw [timer, silent]

/-- The restriction to a key marks that key at the same time. -/
theorem marks?_restrict (operation : Operation) (key : Key) :
    (operation.restrict key).marks? key = operation.marks? key := by
  cases operation with
  | mark keys now => simp [restrict, marks?]
  | expire | retain | clear => rfl

/-- The restriction to a key removes the same marks of that key. -/
theorem removes_restrict (operation : Operation) (key : Key) (expiry : Nat) :
    (operation.restrict key).removes key expiry = operation.removes key expiry := by
  cases operation <;> rfl

/-- The other keys that an operation marks do not matter. -/
theorem timer_restrict (operation : Operation) (key : Key) (lifetime : Nat) (held : Option Nat) :
    (operation.restrict key).timer key lifetime held = operation.timer key lifetime held := by
  unfold timer
  simp only [marks?_restrict, removes_restrict]

end Operation

/-- No operation changes the lifetime. -/
theorem lifetime_apply (marks : Marks) (operation : Operation) :
    (marks.apply operation).lifetime = marks.lifetime := by
  cases operation <;> rfl

/-- What an operation does to the expiry of a key is what it does to its timer. -/
theorem getElem?_apply (marks : Marks) (operation : Operation) (key : Key) :
    (marks.apply operation).expiries[key]? =
      operation.timer key marks.lifetime marks.expiries[key]? := by
  cases operation with
  | mark keys now =>
    rw [apply, getElem?_mark]
    by_cases marked : key ∈ keys
    · rw [if_pos marked, Operation.timer_of_marks (by rw [Operation.marks?, if_pos marked])]
    · rw [if_neg marked, Operation.timer_of_not_marks (by rw [Operation.marks?, if_neg marked])]
      cases marks.expiries[key]? <;> rfl
  | expire now =>
    rw [apply, getElem?_expire, Operation.timer_of_not_marks rfl]
    simp only [Operation.removes, ← decide_not, not_le]
  | retain keep =>
    rw [apply, getElem?_retain, Operation.timer_of_not_marks rfl]
    simp only [Operation.removes, Bool.not_not]
  | clear =>
    rw [Operation.timer_of_not_marks rfl]
    simp [Operation.removes, apply, clear, empty]

/-- A run of operations is a run of the timer of each key. -/
theorem getElem?_run (marks : Marks) (operations : List Operation) (key : Key) :
    (marks.run operations).expiries[key]? =
      operations.foldl (Operation.timer key marks.lifetime) marks.expiries[key]? := by
  induction operations generalizing marks with
  | nil => rfl
  | cons operation rest ih =>
    rw [List.foldl_cons, ← getElem?_apply, ← lifetime_apply marks operation]
    exact ih (marks.apply operation)

/-- A run shows of a key what it would if no other key were marked. -/
theorem getElem?_run_restrict (marks : Marks) (operations : List Operation) (key : Key) :
    (marks.run (operations.map (Operation.restrict key))).expiries[key]? =
      (marks.run operations).expiries[key]? := by
  rw [getElem?_run, getElem?_run, List.foldl_map]
  simp only [Operation.timer_restrict]

/-! ### The latest mark of a key -/

/-- None of the operations marks the key. -/
def NeverMarked (operations : List Operation) (key : Key) : Prop :=
  ∀ operation ∈ operations, operation.marks? key = none

/-- The operations last mark the key at the given time, and these are the operations since. -/
structure LastMarked (operations : List Operation) (key : Key) (time : Nat)
    (since : List Operation) : Prop where
  marked : ∃ earlier operation,
    operations = earlier ++ operation :: since ∧ operation.marks? key = some time
  never : NeverMarked since key

/-- What marked a key last still does with one more operation in front. -/
theorem LastMarked.cons (last : LastMarked operations key time since) (operation : Operation) :
    LastMarked (operation :: operations) key time since := by
  obtain ⟨⟨earlier, marker, rfl, marks⟩, never⟩ := last
  exact ⟨⟨operation :: earlier, marker, rfl, marks⟩, never⟩

/-- A key was never marked, or there is an operation that marked it last. -/
theorem neverMarked_or_lastMarked (operations : List Operation) (key : Key) :
    NeverMarked operations key ∨ ∃ time since, LastMarked operations key time since := by
  induction operations with
  | nil => exact Or.inl fun _ member => absurd member List.not_mem_nil
  | cons operation rest ih =>
    -- A mark among the later operations comes after one by the first.
    rcases ih with never | ⟨time, since, last⟩
    · cases marks : operation.marks? key with
      | none => exact Or.inl (List.forall_mem_cons.mpr ⟨marks, never⟩)
      | some time => exact Or.inr ⟨time, rest, ⟨[], operation, rfl, marks⟩, never⟩
    · exact Or.inr ⟨time, since, last.cons operation⟩

/-- Operations that do not mark a key keep its timer if none of them removes it. -/
theorem foldl_timer_of_neverMarked (never : NeverMarked operations key) (held : Option Nat) :
    operations.foldl (Operation.timer key lifetime) held =
      held.filter fun expiry => operations.all fun operation => !operation.removes key expiry := by
  induction operations generalizing held with
  | nil => cases held <;> rfl
  | cons operation rest ih =>
    obtain ⟨silent, never⟩ := List.forall_mem_cons.mp never
    rw [List.foldl_cons, ih never, Operation.timer_of_not_marks silent, Option.filter_filter]
    simp only [List.all_cons]

/-- After its latest mark a key has the timer of that mark if no operation since removes it. -/
theorem LastMarked.foldl_timer (last : LastMarked operations key time since)
    (held : Option Nat) :
    operations.foldl (Operation.timer key lifetime) held =
      (some (time + lifetime)).filter fun expiry =>
        since.all fun operation => !operation.removes key expiry := by
  obtain ⟨⟨earlier, operation, rfl, marks⟩, never⟩ := last
  -- The mark replaces whatever timer the key had before it.
  rw [List.foldl_append, List.foldl_cons, Operation.timer_of_marks marks,
    foldl_timer_of_neverMarked never]

/-- A key that was never marked is not marked. -/
theorem isMarked_eq_false_of_neverMarked (never : NeverMarked operations key) :
    ((empty lifetime).run operations).isMarked key now = false := by
  have start : (empty lifetime).expiries[key]? = none := Std.HashMap.getElem?_empty
  rw [isMarked_eq, getElem?_run, start, foldl_timer_of_neverMarked never]
  rfl

/-- A key is marked as long as its latest mark has neither been removed nor run out. -/
theorem LastMarked.isMarked_iff (last : LastMarked operations key time since) :
    (marks.run operations).isMarked key now = true ↔
      (∀ operation ∈ since, operation.removes key (time + marks.lifetime) = false) ∧
        now < time + marks.lifetime := by
  rw [isMarked_eq, getElem?_run, last.foldl_timer, Option.any_filter, Option.any_some,
    Bool.and_eq_true, List.all_eq_true, decide_eq_true_iff]
  simp only [Bool.not_eq_true']

/-! ### Held keys -/

/-- The keys that have a mark, whether run out or not. -/
def held (marks : Marks) : Finset Key :=
  marks.expiries.keys.toFinset

@[simp] theorem mem_held : key ∈ marks.held ↔ key ∈ marks.expiries := by
  rw [held, List.mem_toFinset, Std.HashMap.mem_keys]

/-- There are as many keys held as the marks count. -/
theorem card_held (marks : Marks) : marks.held.card = marks.size := by
  rw [held, List.toFinset_card_of_nodup Std.HashMap.nodup_keys, Std.HashMap.length_keys, size]

/-- Expiring only removes keys. -/
theorem held_expire_subset (marks : Marks) (now : Nat) :
    (marks.expire now).1.held ⊆ marks.held := fun _ member =>
  mem_held.mpr (mem_of_mem_expire (mem_held.mp member))

/-- After any operations on new marks, whatever their times, a key is marked exactly if it would be
had no other key been marked. This is so exactly if some operation marked it and, since the latest
that did, none removed the mark and it has not run out. Each expiry tells how many keys it takes the
marks from. -/
theorem isMarked_run (lifetime : Nat) (operations : List Operation) (key : Key) (now : Nat) :
    let marks := (empty lifetime).run operations
    marks.isMarked key now =
        ((empty lifetime).run (operations.map (Operation.restrict key))).isMarked key now ∧
      (marks.isMarked key now = true ↔
        ∃ time since, LastMarked operations key time since ∧
          (∀ operation ∈ since, operation.removes key (time + lifetime) = false) ∧
          now < time + lifetime) ∧
      ∀ time, (marks.expire time).2 = (marks.held \ (marks.apply (.expire time)).held).card := by
  intro marks
  refine ⟨?_, ⟨fun marked => ?_, ?_⟩, fun time => ?_⟩
  · rw [isMarked_eq, isMarked_eq, getElem?_run_restrict]
  · rcases neverMarked_or_lastMarked operations key with never | ⟨time, since, last⟩
    · rw [isMarked_eq_false_of_neverMarked never] at marked
      cases marked
    · exact ⟨time, since, last, last.isMarked_iff.mp marked⟩
  · rintro ⟨time, since, last, lasts⟩
    exact last.isMarked_iff.mpr lasts
  · rw [apply, Finset.card_sdiff_of_subset (marks.held_expire_subset time), card_held, card_held]
    rfl

end Marks

end QueryTail
