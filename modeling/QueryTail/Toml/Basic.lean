/-!
# TOML values

What a TOML document can hold. Whether a table is written in lines of its own or between braces, and
whether an array of tables is written with headers, does not show in the value. The members of a
table have different names and stand in the order in which they were first mentioned.
-/

namespace QueryTail.Toml

/-- A number with a fraction or an exponent, or one of the special numbers. -/
inductive Real where
  /-- `coefficient * 10 ^ exponent`, or its negative. -/
  | decimal (negative : Bool) (coefficient : Nat) (exponent : Int)
  | infinite (negative : Bool)
  | nan
  deriving DecidableEq, Repr

/-- A TOML value. -/
inductive Value where
  | string (text : String)
  | integer (value : Int)
  | real (value : Real)
  | boolean (value : Bool)
  /-- A date, a time of day, or both, as written. -/
  | moment (text : String)
  | array (items : List Value)
  | table (members : List (String × Value))

/-- The members of a table. -/
abbrev Members := List (String × Value)

/-- The value of a name, if the table has it. -/
def Members.get? (members : Members) (name : String) : Option Value :=
  (members.find? fun member => member.1 == name).map Prod.snd

end QueryTail.Toml
