import BoardSim.Decimal.Reader
import BoardSim.Text.Class

/-!
# Sizes

A size in a board descriptor is a number and a unit, as in `4KiB`. Units of a thousand and of 1024
are told apart by the `i`, in either case of letters, except that `KB` is 1024 bytes.
-/

namespace BoardSim

inductive SizeError where
  | empty
  | noValue
  | noMultiple
  | invalidValue
  | invalidMultiple
deriving DecidableEq

namespace SizeError

def message : SizeError → String
  | empty => "Invalid size format: input is empty"
  | noValue => "Invalid size format: no value"
  | noMultiple => "Invalid size format: no multiple"
  | invalidValue => "Invalid size format: invalid value"
  | invalidMultiple => "Invalid size format: invalid multiple"

end SizeError

/-- How the sizes of a board are read. -/
abbrev SizeParser := String → Except SizeError UInt64

namespace Size

/-- The names of the units in lower case, and how many bytes each has. -/
def units : List (String × Nat) := [
  ("b", 1),
  ("kb", 1000), ("mb", Nat.pow 1000 2), ("gb", Nat.pow 1000 3), ("tb", Nat.pow 1000 4),
  ("pb", Nat.pow 1000 5), ("eb", Nat.pow 1000 6), ("zb", Nat.pow 1000 7), ("yb", Nat.pow 1000 8),
  ("kib", 1024), ("mib", Nat.pow 1024 2), ("gib", Nat.pow 1024 3), ("tib", Nat.pow 1024 4),
  ("pib", Nat.pow 1024 5), ("eib", Nat.pow 1024 6), ("zib", Nat.pow 1024 7),
  ("yib", Nat.pow 1024 8)]

def unit? (name : String) : Option Nat :=
  if name = "KB" then some 1024
  else
    let lower := String.ofList (name.toList.map Char.toLower)
    (·.2) <$> units.find? (·.1 == lower)

/-- The value of a size: no smaller and no larger than ordinary doubles are. -/
def value? (text : List Char) : Option Float := (Decimal.float? text).filter Decimal.isRegular

/-- Read a size in bytes. A fraction of a byte is dropped, and what 64 bits do not hold is the
largest number they do. -/
def parse (text : String) : Except SizeError UInt64 :=
  let text := Text.trim text.toList
  let inValue (c : Char) := Text.isNumeric c || c == '.'
  if text.isEmpty then .error .empty
  else
    match text.takeWhile inValue, text.dropWhile inValue with
    | _, [] => .error .noMultiple
    | [], _ => .error .noValue
    | value, name =>
      match value? value, unit? (String.ofList (Text.trim name)) with
      | none, _ => .error .invalidValue
      | _, none => .error .invalidMultiple
      | some value, some bytes => .ok (value * Decimal.nearest bytes 1).toUInt64

end Size

end BoardSim
