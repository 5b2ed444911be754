import Salgil.Python

namespace Salgil
set_option autoImplicit true

/-- A value as `json.loads` returns it. Floats are only ever passed on, as the text they show. -/
inductive Json where
  | null
  | bool (value : Bool)
  | int (value : ℤ)
  | float (text : String)
  | str (value : String)
  | arr (values : List Json)
  | obj (entries : List (String × Json))

/-- A dictionary with text keys, in the order of its keys. -/
abbrev JsonObject := List (String × Json)

namespace Json

/-- `bool(value)`. -/
def truthy : Json → Bool
  | null => false
  | bool value => value
  | int value => value ≠ 0
  | float text => text ∉ ["0.0", "-0.0"]
  | str value => value ≠ ""
  | arr values => !values.isEmpty
  | obj entries => !entries.isEmpty

/-- `value or other`. -/
def or (value other : Json) : Json := if value.truthy then value else other

end Json

/-- `entries.get(key)`, which is None where the key is missing. -/
def JsonObject.get (entries : JsonObject) (key : String) : Json :=
  (entries.lookup key).getD .null

/-- `text.startswith(start)`. -/
def pyStartsWith (text start : String) : Bool := start.toList.isPrefixOf text.toList

theorem pyStartsWith_append (start rest : String) : pyStartsWith (start ++ rest) start = true := by
  simp [pyStartsWith]

/-- How reading a JSON text fails: with a `JSONDecodeError`, or with another exception. -/
inductive JsonError where
  | decode
  | other (error : PyError)

/-- The parts of Python's library that texts from outside go through: `json.loads`, `json.dumps`,
and the text of a list or a dictionary. -/
structure JsonLib where
  loads : String → Except JsonError Json
  dumps : Json → String
  repr : Json → String

/-- `str(value)`. -/
def JsonLib.str (lib : JsonLib) : Json → String
  | .null => "None"
  | .bool value => if value then "True" else "False"
  | .int value => toString value
  | .float text => text
  | .str value => value
  | value => lib.repr value

/-- `text[:n]`. -/
def pyTake (n : ℕ) (text : String) : String := String.ofList (text.toList.take n)

end Salgil
