import BoardSim.Decimal.Shortest
import BoardSim.Json.Value
import BoardSim.Yaml.Scalar

/-!
# Free-form values

The `config` map of a device holds values of any shape. They are read from JSON or YAML; what a
device needs of them are unsigned integers.
-/

namespace BoardSim

inductive Extra where
  | null
  | bool (b : Bool)
  | int (n : Int)
  | float (x : Float)
  | text (s : String)
  | list (items : List Extra)
  | dict (entries : List (Extra × Extra))
  | tagged (tag : String) (value : Extra)
deriving Inhabited

namespace Extra

/-- The unsigned 64-bit integer that a value is, tags aside. -/
def unsigned? : Extra → Option UInt64
  | int n => if 0 ≤ n ∧ n < UInt64.size then some (UInt64.ofNat n.toNat) else none
  | tagged _ value => value.unsigned?
  | _ => none

/-- A tag without the exclamation mark it may begin with. A lone mark is kept. -/
def bareTag (tag : String) : String :=
  match tag.toList with
  | '!' :: c :: rest => String.ofList (c :: rest)
  | _ => tag

mutual

/-- Whether two values are the same. The order of entries does not matter, and a number that is
not a number is the same as itself. -/
def isSame : Extra → Extra → Bool
  | null, null => true
  | bool a, bool b => a == b
  | int m, int n => m == n
  | float x, float y => x == y || (x.isNaN && y.isNaN)
  | text s, text t => s == t
  | list items, list others => areSame items others
  | dict entries, dict others => entries.length == others.length && areAmong others entries
  | tagged tag value, tagged tag' value' => bareTag tag == bareTag tag' && isSame value value'
  | _, _ => false

def areSame : List Extra → List Extra → Bool
  | [], [] => true
  | item :: items, other :: others => isSame item other && areSame items others
  | _, _ => false

/-- All the entries are among the given ones. -/
def areAmong (others : List (Extra × Extra)) : List (Extra × Extra) → Bool
  | [] => true
  | (key, value) :: rest =>
    others.any (fun (key', value') => isSame key key' && isSame value value') &&
      areAmong others rest

end

/-- A key is repeated among the entries. -/
def hasRepeatedKey : List (Extra × Extra) → Bool
  | [] => false
  | (key, _) :: rest => rest.any (isSame key ·.1) || hasRepeatedKey rest

-- ---------------------------------------------------------------------------
-- Reading
-- ---------------------------------------------------------------------------

mutual

/-- The value of a JSON text. An object with a repeated name is an error. -/
def ofJson? : Json → Option Extra
  | .null => some null
  | .bool b => some (bool b)
  | .int n => some (int n)
  | .float x => some (float x)
  | .str s => some (text s)
  | .arr items => (ofJsonItems? items).map list
  | .obj fields =>
    (ofJsonFields? fields).bind fun entries =>
      if hasRepeatedKey entries then none else some (dict entries)

def ofJsonItems? : List Json → Option (List Extra)
  | [] => some []
  | j :: rest => do
    let item ← ofJson? j
    let items ← ofJsonItems? rest
    pure (item :: items)

def ofJsonFields? : List (String × Json) → Option (List (Extra × Extra))
  | [] => some []
  | (name, j) :: rest => do
    let value ← ofJson? j
    let entries ← ofJsonFields? rest
    pure ((text name, value) :: entries)

end

open Yaml (Node ScalarStyle Tag Scalar.isNull Scalar.bool? Scalar.unsigned? Scalar.negative?
  Scalar.float? Scalar.hasLeadingZero)

/-- An integer of 64 bits. Longer ones of up to 128 bits are errors rather than text. -/
def integer? (s : String) : Option (Option Extra) :=
  match Scalar.unsigned? UInt64.size s, Scalar.negative? (UInt64.size / 2) s with
  | some n, _ => some (some (int n))
  | none, some n => some (some (int n))
  | none, none =>
    let limit := UInt64.size * UInt64.size
    if (Scalar.unsigned? limit s).isSome || (Scalar.negative? (limit / 2) s).isSome then none
    else some none

/-- The value of a scalar that is written plainly. -/
def ofPlain? (s : String) : Option Extra :=
  if s = "" || Scalar.isNull s then some null
  else
    match Scalar.bool? s with
    | some b => some (bool b)
    | none => do
      match ← integer? s with
      | some n => pure n
      | none =>
        let x := if Scalar.hasLeadingZero s.toList then none else Scalar.float? s
        pure ((x.map float).getD (text s))

/-- The value of a scalar apart from a local tag's name. -/
def ofScalar? (tag : Option Tag) (style : ScalarStyle) (s : String) : Option Extra :=
  if tag = some (.core "bool") then (Scalar.bool? s).map bool
  else if tag = some (.core "int") then (integer? s).join
  else if tag = some (.core "float") then (Scalar.float? s).map float
  else if tag = some (.core "null") then if Scalar.isNull s then some null else none
  else if tag.all Tag.isLocal && style = .plain then ofPlain? s
  else some (text s)

def withTag (tag : Option Tag) (value : Extra) : Extra :=
  match tag.bind Tag.localName? with
  | some name => tagged name value
  | none => value

mutual

def ofNode? : Node → Option Extra
  | .scalar tag style s => (ofScalar? tag style s).map (withTag tag)
  | .seq tag items => (ofItems? items).map fun items => withTag tag (list items)
  | .map tag entries =>
    (ofEntries? entries).bind fun entries =>
      if hasRepeatedKey entries then none else some (withTag tag (dict entries))
  | .alias _ => none

def ofItems? : List Node → Option (List Extra)
  | [] => some []
  | node :: rest => do
    let item ← ofNode? node
    let items ← ofItems? rest
    pure (item :: items)

def ofEntries? : List (Node × Node) → Option (List (Extra × Extra))
  | [] => some []
  | (key, value) :: rest => do
    let key ← ofNode? key
    let value ← ofNode? value
    let entries ← ofEntries? rest
    pure ((key, value) :: entries)

end

-- ---------------------------------------------------------------------------
-- Writing
-- ---------------------------------------------------------------------------

/-- The name that a key has in JSON. -/
def keyName : Extra → String
  | null => "null"
  | bool b => if b then "true" else "false"
  | int n => toString n
  | float x => (Decimal.FloatFormat.json.float? x).getD ""
  | text s => s
  | _ => ""

mutual

def toJson : Extra → Json
  | null => .null
  | bool b => .bool b
  | int n => .int n
  | float x => if x.isFinite then .float x else .null
  | text s => .str s
  | list items => .arr (itemsToJson items)
  | dict entries => .obj (entriesToJson entries)
  | tagged tag value => .obj [("!" ++ bareTag tag, toJson value)]

def itemsToJson : List Extra → List Json
  | [] => []
  | item :: rest => toJson item :: itemsToJson rest

def entriesToJson : List (Extra × Extra) → List (String × Json)
  | [] => []
  | (key, value) :: rest => (keyName key, toJson value) :: entriesToJson rest

end

end Extra

end BoardSim
