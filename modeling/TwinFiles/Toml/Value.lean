import TwinFiles.Text.Binary64

/-!
# TOML values

What a TOML document can hold. Of a date or a time only its presence matters here.
-/

namespace TwinFiles.Toml

/-- A TOML value. -/
inductive Value where
  | string (text : Bytes)
  | integer (value : Int)
  | float (value : Binary64)
  | bool (value : Bool)
  | moment
  | array (items : List Value)
  | table (fields : List (Bytes × Value))

end TwinFiles.Toml
