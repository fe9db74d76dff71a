import BoardSim.Json.Number
import BoardSim.Json.Skip
import BoardSim.Outline

/-!
# Reading JSON

`Json.ofText?` reads one value with blanks around it and nothing else. Arrays and objects nest at
most `maxDepth` deep, and every number and every string must have a value.

A reader who needs some members only gives their `Outline`. All other members are passed over, so
they need not have a value.
-/

namespace BoardSim.Json

/-- How deep arrays and objects may nest. -/
def maxDepth : Nat := 127

-- ---------------------------------------------------------------------------
-- Strings
-- ---------------------------------------------------------------------------

/-- The character of an escaped unit, or of two that make a surrogate pair. -/
def escapedUnit? (cs : List Char) : Option (Char × List Char) := do
  let (high, rest) ← unit? cs
  if high < 0xD800 ∨ 0xE000 ≤ high then some (Char.ofNat high, rest)
  else if 0xDC00 ≤ high then none
  else
    match rest with
    | '\\' :: 'u' :: rest =>
      let (low, rest) ← unit? rest
      if 0xDC00 ≤ low ∧ low < 0xE000 then
        some (Char.ofNat (0x10000 + (high - 0xD800) * 0x400 + (low - 0xDC00)), rest)
      else none
    | _ => none

/-- The character after a backslash. -/
def escape? : List Char → Option (Char × List Char)
  | 'u' :: rest => escapedUnit? rest
  | c :: rest => (escaped? c).map (·, rest)
  | [] => none

/-- A string after its opening quote; `fuel` bounds the number of characters. -/
def string? (fuel : Nat) (done : List Char) (cs : List Char) : Option (String × List Char) :=
  match fuel with
  | 0 => none
  | fuel + 1 =>
    match cs with
    | [] => none
    | '\"' :: rest => some (String.ofList done.reverse, rest)
    | '\\' :: rest => do
      let (c, rest) ← escape? rest
      string? fuel (c :: done) rest
    | c :: rest => if isControl c then none else string? fuel (c :: done) rest

-- ---------------------------------------------------------------------------
-- Values
-- ---------------------------------------------------------------------------

/-- A number after its sign. -/
def number? (negative : Bool) (cs : List Char) : Option (Json × List Char) := do
  let (n, rest) ← numeral? cs
  (n.value? negative).map (·, rest)

mutual

/-- What `outline` tells of one value; `depth` more levels may be opened, and `fuel` bounds the
number of steps. -/
def value? (fuel depth : Nat) (outline : Outline) (cs : List Char) : Option (Json × List Char) :=
  match fuel with
  | 0 => none
  | fuel + 1 =>
    match skipBlanks cs with
    | 'n' :: rest => (word? ['u', 'l', 'l'] rest).map (.null, ·)
    | 't' :: rest => (word? ['r', 'u', 'e'] rest).map (.bool true, ·)
    | 'f' :: rest => (word? ['a', 'l', 's', 'e'] rest).map (.bool false, ·)
    | '\"' :: rest => (string? (rest.length + 1) [] rest).map fun (s, rest) => (.str s, rest)
    | '-' :: rest => number? true rest
    | '[' :: rest =>
      if depth = 0 then none
      else
        match skipBlanks rest with
        | ']' :: rest => some (.arr [], rest)
        | rest =>
          (restOfArray? fuel (depth - 1) outline [] rest).map fun (items, rest) =>
            (.arr items, rest)
    | '\x7b' :: rest =>
      if depth = 0 then none
      else
        match skipBlanks rest with
        | '\x7d' :: rest => some (.obj [], rest)
        | rest =>
          (restOfObject? fuel (depth - 1) outline [] rest).map fun (members, rest) =>
            (.obj members, rest)
    | cs => number? false cs

/-- The items of an array, up to its end. -/
def restOfArray? (fuel depth : Nat) (outline : Outline) (done : List Json) (cs : List Char) :
    Option (List Json × List Char) :=
  match fuel with
  | 0 => none
  | fuel + 1 => do
    let (first, later) := outline.nextItem
    let (item, rest) ← value? fuel depth first cs
    match skipBlanks rest with
    | ',' :: rest => restOfArray? fuel depth later (item :: done) rest
    | ']' :: rest => some ((item :: done).reverse, rest)
    | _ => none

/-- The members of an object, up to its end. -/
def restOfObject? (fuel depth : Nat) (outline : Outline) (done : List (String × Json))
    (cs : List Char) : Option (List (String × Json) × List Char) :=
  match fuel with
  | 0 => none
  | fuel + 1 =>
    match skipBlanks cs with
    | '\"' :: rest => do
      let (name, rest) ← string? (rest.length + 1) [] rest
      match skipBlanks rest with
      | ':' :: rest =>
        let (done, rest) ←
          match outline.member? name with
          | some outline =>
            (value? fuel depth outline rest).map fun (value, rest) => ((name, value) :: done, rest)
          | none => (skipValue? rest).map (done, ·)
        match skipBlanks rest with
        | ',' :: rest => restOfObject? fuel depth outline done rest
        | '\x7d' :: rest => some (done.reverse, rest)
        | _ => none
      | _ => none
    | _ => none

end

/-- Read a text that is one value, as far as `outline` asks for it. -/
def ofText? (text : String) (outline : Outline := .whole) : Option Json := do
  let cs := text.toList
  let (j, rest) ← value? (2 * cs.length + 2) maxDepth outline cs
  if (skipBlanks rest).isEmpty then some j else none

end BoardSim.Json
