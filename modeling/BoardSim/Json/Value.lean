import BoardSim.Text.Hex

/-!
# JSON values

The fields of an object are kept in the order of the text, repetitions included. Integers and
floating-point numbers are told apart, as their texts are.
-/

namespace BoardSim

inductive Json where
  | null
  | bool (b : Bool)
  | int (n : Int)
  | float (x : Float)
  | str (s : String)
  | arr (items : List Json)
  | obj (fields : List (String × Json))
deriving Inhabited

namespace Json

def nat (n : Nat) : Json := .int n

/-- An object without fields that are missing. -/
def ofOption {α : Type} (f : α → Json) : Option α → Json
  | some a => f a
  | none => .null

def list {α : Type} (f : α → Json) (items : List α) : Json := .arr (items.map f)

/-- The fields of an object. -/
def fields? : Json → Option (List (String × Json))
  | obj fields => some fields
  | _ => none

/-- The items of an array. -/
def items? : Json → Option (List Json)
  | arr items => some items
  | _ => none

/-- The first field called `name`. -/
def field? (j : Json) (name : String) : Option Json := do
  let fields ← j.fields?
  (·.2) <$> fields.find? (·.1 == name)

/-- Put a field at the end, in place of an earlier one of that name. -/
def setField (fields : List (String × Json)) (name : String) (value : Json) :
    List (String × Json) :=
  if fields.any (·.1 == name) then
    fields.map fun (n, v) => if n == name then (n, value) else (n, v)
  else fields ++ [(name, value)]

mutual

/-- Of the fields of one name in an object keep the last. -/
def lastFields : Json → Json
  | arr items => arr (lastFieldsList items)
  | obj fields => obj (lastFieldsObj fields)
  | j => j

def lastFieldsList : List Json → List Json
  | [] => []
  | j :: rest => lastFields j :: lastFieldsList rest

def lastFieldsObj : List (String × Json) → List (String × Json)
  | [] => []
  | (name, j) :: rest =>
    let rest' := lastFieldsObj rest
    if rest'.any (·.1 == name) then rest' else (name, lastFields j) :: rest'

end

end Json

end BoardSim
