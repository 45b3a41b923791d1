/-!
# JSON values

A JSON value as this library holds it. Whole numbers are kept exactly; every other number is a
double. The members of an object are kept in ascending order of their names, each name once, so
that equal objects are equal lists.
-/

namespace QueryTail

/-- A number: a whole number as it was written, or a double. -/
inductive Json.Number where
  | integer (value : Int)
  | real (value : Float)

/-- A JSON value. -/
inductive Json where
  | null
  | bool (value : Bool)
  | number (value : Json.Number)
  | string (value : String)
  | array (items : List Json)
  | object (members : List (String × Json))

namespace Json

/-- The members of an object, in ascending order of their names. -/
abbrev Members := List (String × Json)

/-- Put a member into its place in ascending order; an earlier value of the name is replaced. -/
def Members.insert (name : String) (value : Json) : Members → Members
  | [] => [(name, value)]
  | (other, held) :: rest =>
    if name < other then (name, value) :: (other, held) :: rest
    else if name = other then (name, value) :: rest
    else (other, held) :: Members.insert name value rest

/-- The value of a name, if the object has it. -/
def Members.get? (members : Members) (name : String) : Option Json :=
  (members.find? fun member => member.1 == name).map Prod.snd

/-- The object with the given members; of a repeated name the last value counts. -/
def Members.ofList (members : List (String × Json)) : Members :=
  members.foldl (fun held member => held.insert member.1 member.2) []

/-- A natural number as a JSON value. -/
def natural (value : Nat) : Json :=
  .number (.integer value)

@[simp] theorem Members.insert_nil (name : String) (value : Json) :
    Members.insert name value [] = [(name, value)] := rfl

@[simp] theorem Members.get?_nil (name : String) : Members.get? [] name = none := rfl

/-- A member just put in is found under its name. -/
theorem Members.get?_insert_self (name : String) (value : Json) (members : Members) :
    (members.insert name value).get? name = some value := by
  induction members with
  | nil => simp [get?]
  | cons member rest ih =>
    obtain ⟨other, held⟩ := member
    unfold Members.insert
    split
    · simp [get?]
    · split
      · simp [get?]
      · rename_i different
        have : (other == name) = false := by simpa using fun same => different same.symm
        simpa [get?, this] using ih

end Json

end QueryTail
