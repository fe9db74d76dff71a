import BoardSim.Board.Descriptor
import BoardSim.Json.Reader
import BoardSim.Yaml.Reading

/-!
# Reading board descriptors

JSON and YAML are read alike: `Described` is what both can tell about a value. A record is a
mapping from the names of its fields; in JSON it may be a sequence of them in order. A name that is
not a field is ignored, one that occurs twice is an error, and a field that may be left out has a
default.
-/

namespace BoardSim

/-- Values that can describe parts of a board. -/
class Described (ν : Type) where
  text? : ν → Option String
  /-- An unsigned integer of 64 bits. -/
  unsigned? : ν → Option Nat
  /-- Whether the value says that there is none; `none` if it cannot be told. -/
  absent? : ν → Option Bool
  items? : ν → Option (List ν)
  /-- The fields of a record that is written as a sequence of them. -/
  inOrder? : ν → Option (List ν)
  /-- The entries of a mapping with text for keys. -/
  entries? : ν → Option (List (String × ν))
  extra? : ν → Option Extra

namespace Described

variable {ν : Type} [Described ν]

/-- The value of a name that occurs at most once. -/
def unique? (entries : List (String × ν)) (name : String) : Option (Option ν) :=
  match entries.filter (·.1 == name) with
  | [] => some none
  | [(_, value)] => some (some value)
  | _ => none

/-- The fields of a record, in the order of their names. -/
def fields? (names : List String) (value : ν) : Option (List (Option ν)) :=
  match entries? value with
  | some entries => names.mapM (unique? entries)
  | none =>
    (inOrder? value).bind fun items =>
      if names.length < items.length then none
      else some (items.map some ++ List.replicate (names.length - items.length) none)

/-- A field that has a default. -/
def orDefault? {α : Type} (read? : ν → Option α) (default : α) : Option ν → Option α
  | none => some default
  | some value => read? value

def optional? {α : Type} (read? : ν → Option α) : Option ν → Option (Option α)
  | none => some none
  | some value => do
    if ← absent? value then pure none else some <$> read? value

def word64? (value : ν) : Option UInt64 := (unsigned? value).map UInt64.ofNat

def word32? (value : ν) : Option UInt32 :=
  ((unsigned? value).filter (· < UInt32.size)).map UInt32.ofNat

def putEntry {α : Type} (entries : List (String × α)) (entry : String × α) : List (String × α) :=
  entries.filter (·.1 != entry.1) ++ [entry]

/-- The `config` map of a device. Of values of one name the last counts. -/
def config? (value : ν) : Option (List (String × Extra)) := do
  let entries ← entries? value
  let values ← entries.mapM fun (name, value) => (extra? value).map (name, ·)
  pure (values.foldl putEntry [])

end Described

open Described

variable {ν : Type} [Described ν]

def Settings.fieldNames : List String := ["tick_us", "pacing_us", "join_timeout_ms", "irq_lines"]

def DeviceEntry.fieldNames : List String := ["id", "type", "base_address", "size", "irq", "config"]

def Board.fieldNames : List String := ["schema_version", "name", "simulation", "devices"]

def Settings.read? (value : ν) : Option Settings := do
  match ← fields? fieldNames value with
  | [tick, pacing, join, lines] =>
    let tickMicros ← orDefault? word64? 1000 tick
    let pacingMicros ← optional? word64? pacing
    let joinTimeoutMillis ← orDefault? word64? 500 join
    let irqLines ← orDefault? word32? 256 lines
    pure { tickMicros, pacingMicros, joinTimeoutMillis, irqLines }
  | _ => none

def DeviceEntry.read? (value : ν) : Option DeviceEntry := do
  match ← fields? fieldNames value with
  | [id, kind, base, size, irq, config] =>
    let id ← id.bind text?
    let kind ← kind.bind text?
    let baseAddress ← base.bind word64?
    let size ← optional? text? size
    let irq ← optional? word32? irq
    let config ← orDefault? config? [] config
    pure { id, kind, baseAddress, size, irq, config }
  | _ => none

def Board.read? (value : ν) : Option Board := do
  match ← fields? fieldNames value with
  | [version, name, simulation, devices] =>
    let schemaVersion ← orDefault? text? "1.0" version
    let name ← name.bind text?
    let simulation ← orDefault? Settings.read? {} simulation
    let devices ← devices.bind items?
    let devices ← devices.mapM DeviceEntry.read?
    pure { schemaVersion, name, simulation, devices }
  | _ => none

instance : Described Json where
  text?
    | .str s => some s
    | _ => none
  unsigned?
    | .int n => if 0 ≤ n ∧ n < UInt64.size then some n.toNat else none
    | _ => none
  absent?
    | .null => some true
    | _ => some false
  items? j := j.items?
  inOrder? j := j.items?
  entries? j := j.fields?
  extra? := Extra.ofJson?

namespace Yaml.Node

/-- A node that is left out stands for a collection without entries. -/
def isEmptyPlain : Node → Bool
  | .scalar _ .plain "" => true
  | _ => false

/-- The scalar may be read as a number: it is written plainly, or literally with the tag. -/
def isNumberText (tag : Option Tag) (style : ScalarStyle) : Bool :=
  style = .plain || (style = .literal && tag = some (.core "int"))

def keyText? : Node × Node → Option (String × Node)
  | (.scalar _ _ key, value) => some (key, value)
  | _ => none

/-- Whether a scalar says that there is no value. The tag of null admits no other text. -/
def absentScalar? (tag : Option Tag) (style : ScalarStyle) (text : String) : Option Bool :=
  if style ≠ .plain then some false
  else
    match tag with
    | none => some (text = "" || Scalar.isNull text)
    | some tag =>
      if tag ≠ .core "null" then some false
      else if Scalar.isNull text then some true
      else none

end Yaml.Node

instance : Described Yaml.Node where
  text?
    | .scalar _ _ text => some text
    | _ => none
  unsigned?
    | .scalar tag style text =>
      if Yaml.Node.isNumberText tag style then Yaml.Scalar.unsigned? UInt64.size text else none
    | _ => none
  absent?
    | .scalar tag style text => Yaml.Node.absentScalar? tag style text
    | _ => some false
  items?
    | .seq _ items => some items
    | node => if node.isEmptyPlain then some [] else none
  inOrder? _ := none
  entries?
    | .map _ entries => entries.mapM Yaml.Node.keyText?
    | node => if node.isEmptyPlain then some [] else none
  extra? := Extra.ofNode?

namespace Board

/-- The members of a text that a board is read from. -/
def outline : Outline :=
  let wholes (names : List String) : Outline := .record (names.map (·, .whole))
  .record
    [("schema_version", .whole), ("name", .whole), ("simulation", wholes Settings.fieldNames),
      ("devices", .each (wholes DeviceEntry.fieldNames))]

def accept (board : Option Board) (unread : BoardError) : Except BoardError Board :=
  match board with
  | none => .error unread
  | some board => board.validate.map fun _ => board

def ofJson (j : Json) : Except BoardError Board := accept (read? j) .illFormed

def ofYaml (text : String) : Except BoardError Board :=
  accept (((Yaml.Document.ofText? text).bind (·.read? outline)).bind read?) .notYaml

/-- The last part of a path that names something. -/
def fileName? (path : String) : Option (List Char) :=
  let parts := (path.splitOn "/").filter fun part => part ≠ "" && part ≠ "."
  (parts.getLast?.filter (· ≠ "..")).map String.toList

/-- The part of a file name after its last point. A name that only begins with one has none. -/
def extension? (path : String) : Option String := do
  let name ← fileName? path
  let ending := name.reverse.takeWhile (· ≠ '.')
  if ending.length + 1 < name.length then pure (String.ofList ending.reverse) else none

/-- Load a board from a file, given what reading it gave. JSON is told by the extension. -/
def ofFile (path : String) (content : Except FileFault String) : Except BoardError Board :=
  match content with
  | .error fault => .error (.noFile path fault)
  | .ok text =>
    if extension? path = some "json" then
      accept ((Json.ofText? text outline).bind read?) (.notJson path)
    else ofYaml text

end Board

end BoardSim
