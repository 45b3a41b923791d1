import QueryTail.Marks

/-!
# Marks key by key

The marks give every key the time at which its mark runs out, if it has one. An operation is one
equation on this function, and at each key the equation speaks of that key alone.
-/

namespace QueryTail

namespace Marks

variable {marks : Marks} {keys : List Key} {keep : Key → Bool} {now : Nat} {key : Key}

/-- Inserting keys gives them the same expiry and leaves the other keys alone. -/
theorem getElem?_foldl_insert (held : Std.HashMap Key Nat) (expiry : Nat) :
    (keys.foldl (fun held key => held.insert key expiry) held)[key]? =
      if key ∈ keys then some expiry else held[key]? := by
  induction keys generalizing held with
  | nil => simp
  | cons first rest ih =>
    rw [List.foldl_cons, ih, Std.HashMap.getElem?_insert]
    by_cases later : key ∈ rest
    · simp [later]
    · by_cases same : first = key
      · simp [same]
      · simp [later, same, Ne.symm same]

/-- A key that is marked gets a new time, whether it had one or not. -/
theorem getElem?_mark :
    (marks.mark keys now).expiries[key]? =
      if key ∈ keys then some (now + marks.lifetime) else marks.expiries[key]? :=
  getElem?_foldl_insert marks.expiries _

/-- Retaining keeps the expiries of the keys that are kept. -/
theorem getElem?_retain :
    (marks.retain keep).expiries[key]? = marks.expiries[key]?.filter fun _ => keep key :=
  Std.HashMap.getElem?_filter'

/-- Expiring keeps the expiries that are still to come. -/
theorem getElem?_expire :
    (marks.expire now).1.expiries[key]? = marks.expiries[key]?.filter (decide <| now < ·) :=
  Std.HashMap.getElem?_filter'

/-- A key is marked as long as its expiry is still to come. -/
theorem isMarked_eq (marks : Marks) (key : Key) (now : Nat) :
    marks.isMarked key now = marks.expiries[key]?.any (decide <| now < ·) := by
  unfold isMarked
  cases marks.expiries[key]? <;> rfl

@[simp] theorem mem_mark :
    key ∈ (marks.mark keys now).expiries ↔ key ∈ keys ∨ key ∈ marks.expiries := by
  rw [Std.HashMap.mem_iff_isSome_getElem?, Std.HashMap.mem_iff_isSome_getElem?, getElem?_mark]
  by_cases marked : key ∈ keys <;> simp [marked]

@[simp] theorem mem_retain :
    key ∈ (marks.retain keep).expiries ↔ key ∈ marks.expiries ∧ keep key = true := by
  rw [Std.HashMap.mem_iff_isSome_getElem?, Std.HashMap.mem_iff_isSome_getElem?, getElem?_retain]
  cases marks.expiries[key]? <;> simp [Option.filter]

/-- Expiring brings no key in. -/
theorem mem_of_mem_expire (member : key ∈ (marks.expire now).1.expiries) :
    key ∈ marks.expiries := by
  rw [Std.HashMap.mem_iff_isSome_getElem?, getElem?_expire] at member
  rw [Std.HashMap.mem_iff_isSome_getElem?]
  obtain ⟨expiry, left⟩ := Option.isSome_iff_exists.mp member
  rw [(Option.filter_eq_some_iff.mp left).1]
  rfl

@[simp] theorem not_mem_empty (lifetime : Nat) : key ∉ (empty lifetime).expiries :=
  Std.HashMap.not_mem_empty

@[simp] theorem not_mem_clear : key ∉ marks.clear.expiries :=
  not_mem_empty marks.lifetime

end Marks

end QueryTail
