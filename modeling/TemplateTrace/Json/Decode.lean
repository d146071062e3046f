import TemplateTrace.Json.Range

/-!
# Typed views of JSON values

How texts, counts, integers and records are taken out of a JSON value. A record is an object
with its fields as members, in any order and among others, or an array of its fields in the
order of their declaration. A field that comes twice makes the object useless, a member that
is no field does not.
-/

namespace TemplateTrace.Json

/-- The text of a string. -/
def text? : Json → Option String
  | .string text => text
  | _ => none

/-- A count: an integer literal without a sign, below 2^64. -/
def count? : Json → Option Nat
  | .number (.integer false n) => if n < Number.countBound then some n else none
  | _ => none

/-- A 32-bit integer; a zero has no sign. -/
def int32? : Json → Option Int32
  | .number (.integer false n) => if n < Number.int32Bound then some (Int32.ofInt n) else none
  | .number (.integer true n) =>
      if 0 < n ∧ n ≤ Number.int32Bound then some (Int32.ofInt (-n)) else none
  | _ => none

/-- The values of an array, each read by `item?`. -/
def list? {α : Type} (item? : Json → Option α) : Json → Option (List α)
  | .array items => items.mapM item?
  | _ => none

/-- The values of the members with the given key. -/
def valuesOf (members : List (Option String × Json)) (key : String) : List Json :=
  (members.filter (·.1 = some key)).map (·.2)

/-- The fields of a record, in the order of `names`; one that is absent is `none`. -/
def fields? (names : List String) : Json → Option (List (Option Json))
  | .object members =>
      if members.all (·.1.isSome) && names.all (fun name => (valuesOf members name).length ≤ 1)
      then some (names.map fun name => (valuesOf members name).head?)
      else none
  | .array items =>
      if items.length ≤ names.length
      then some ((List.range names.length).map fun i => items[i]?)
      else none
  | _ => none

/-- A field that may be absent or null. -/
def optional? {α : Type} (read? : Json → Option α) : Option Json → Option (Option α)
  | none | some .null => some none
  | some json => (read? json).map some

mutual

/-- Whether all strings spell texts, all numbers are in the range, and no value lies inside `room`
others or more. -/
def isPlain (room : Nat) : Json → Bool
  | .null | .bool _ => true
  | .number numeral => numeral.isInRange
  | .string text => text.isSome
  | .array items => 0 < room && arePlain (room - 1) items
  | .object members => 0 < room && haveOnlyPlain (room - 1) members

/-- `isPlain` for the items of an array. -/
def arePlain (room : Nat) : List Json → Bool
  | [] => true
  | item :: rest => isPlain room item && arePlain room rest

/-- `isPlain` for the members of an object. -/
def haveOnlyPlain (room : Nat) : List (Option String × Json) → Bool
  | [] => true
  | (key, value) :: rest => key.isSome && isPlain room value && haveOnlyPlain room rest

end

end TemplateTrace.Json
