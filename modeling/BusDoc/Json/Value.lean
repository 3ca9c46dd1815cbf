/-!
# JSON values

The values of the exchange format, with numbers told apart into integers and all others. Objects
keep their members in order and may repeat a name. A string may spell out half of a surrogate pair
and so denote no text; such a value is `unreadable`, as is an object with such a name.
-/

namespace BusDoc

/-- A JSON value. -/
inductive Json
  | null
  | bool (value : Bool)
  | integer (value : Int)
  /-- A number with a fraction or an exponent, or minus zero, as it is written. -/
  | decimal (literal : String)
  | text (value : String)
  | array (items : List Json)
  | object (members : List (String × Json))
  /-- A value that is written well but denotes no text. -/
  | unreadable
  deriving Repr, Inhabited

end BusDoc
