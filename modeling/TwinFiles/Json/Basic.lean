import TwinFiles.Bytes

/-!
# JSON values

A number is `digits · 10 ^ exponent`, so that every JSON number has a value; a natural number has
the exponent zero. The fields of an object keep their order.
-/

namespace TwinFiles

/-- A JSON value. Texts and names are bytes, which stand for UTF-8. -/
inductive Json where
  | null
  | bool (value : Bool)
  | number (digits exponent : Int)
  | string (text : Bytes)
  | array (items : List Json)
  | object (fields : List (Bytes × Json))

namespace Json

/-- A natural number. -/
def nat (n : Nat) : Json :=
  .number n 0

/-- The first field of an object that has a name. -/
def field? (name : Bytes) : Json → Option Json
  | .object fields => fields.lookup name
  | _ => none

end Json

end TwinFiles
