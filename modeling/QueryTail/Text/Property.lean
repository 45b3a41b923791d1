import QueryTail.Text.Digits
import QueryTail.Text.Property.Age
import QueryTail.Text.Property.Binary
import QueryTail.Text.Property.GeneralCategory
import QueryTail.Text.Property.GraphemeBreak
import QueryTail.Text.Property.Script
import QueryTail.Text.Property.ScriptExtensions
import QueryTail.Text.Property.SentenceBreak
import QueryTail.Text.Property.WordBreak

/-!
# Character properties by name

Names of properties and of their values are compared in a loose form: letter case, spaces, hyphens
and underscores do not count, and neither does a leading `is`. A name alone stands for a binary
property, a general category or a script, in this order.
-/

namespace QueryTail.Text.Property

/-- The loose form of a name. Characters outside ASCII do not count either. -/
def looseName (name : List Char) : List Char :=
  let (hadIs, body) := match name with
    | a :: b :: rest =>
      if (a = 'i' ∨ a = 'I') ∧ (b = 's' ∨ b = 'S') then (true, rest) else (false, name)
    | _ => (false, name)
  let kept := body.filter fun c => c ≠ ' ' && c ≠ '_' && c ≠ '-' && c.toNat < 0x80
  let loose := kept.map Char.toLower
  if hadIs && loose = ['c'] then "isc".toList else loose

/-- The characters that have a value of a property. -/
def lookup (values : List PropertyValue) (name : String) : Option RangeTable :=
  (values.find? fun value => value.names.contains name).map fun value => .decode value.lines

/-- The general category of a loose name, with the three sets that count as categories. -/
def category? (name : String) : Option RangeTable :=
  if name = "any" then some (.range 0 RangeTable.lastCode)
  else if name = "ascii" then some (.range 0 0x7F)
  else if name = "assigned" then (lookup generalCategory "cn").map .complement
  else lookup generalCategory name

/-- The set that a name alone stands for. -/
def ofName? (name : List Char) : Option RangeTable :=
  let name := String.ofList (looseName name)
  lookup binary name <|> category? name <|> lookup script name

/-- The two numbers of an edition of the standard, from its name with a point between them. -/
def edition (value : PropertyValue) : Nat × Nat :=
  match (value.names.headD "").toList.span (· ≠ '.') with
  | (major, _ :: minor) => (digitsValue major, digitsValue minor)
  | (major, []) => (digitsValue major, 0)

/-- The characters that an edition of the standard or one before it added. -/
def ages? (name : String) : Option RangeTable :=
  (age.find? fun value => value.names.contains name).map fun limit =>
    let (major, minor) := edition limit
    .unionAll <| (age.filter fun value =>
      let (otherMajor, otherMinor) := edition value
      otherMajor < major || (otherMajor == major && otherMinor ≤ minor)).map
        fun value => .decode value.lines

/-- The set of the characters whose value of a property is the named one. -/
def ofValue? (property value : List Char) : Option RangeTable :=
  let property := String.ofList (looseName property)
  let value := String.ofList (looseName value)
  if ["gc", "generalcategory"].contains property then category? value
  else if ["sc", "script"].contains property then lookup script value
  else if ["scx", "scriptextensions"].contains property then lookup scriptExtensions value
  else if property = "age" then ages? value
  else if ["gcb", "graphemeclusterbreak"].contains property then lookup graphemeBreak value
  else if ["wb", "wordbreak"].contains property then lookup wordBreak value
  else if ["sb", "sentencebreak"].contains property then lookup sentenceBreak value
  else none

/-- The union of some binary properties and general categories. -/
def unionOf (binaryNames categoryNames : List String) : RangeTable :=
  .unionAll <|
    binaryNames.filterMap (lookup binary) ++ categoryNames.filterMap (lookup generalCategory)

/-- The decimal digits of all scripts. -/
def decimalDigits : RangeTable := unionOf [] ["nd"]

/-- The blank characters, as a set. -/
def blanks : RangeTable := unionOf ["whitespace"] []

/-- The characters that words are made of: letters, marks, decimal digits, connectors and the two
join controls. -/
def wordCharacters : RangeTable := unionOf ["alphabetic", "joincontrol"] ["m", "nd", "pc"]

end QueryTail.Text.Property
