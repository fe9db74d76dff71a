import BoardSim.Json.Value
import BoardSim.Decimal.Shortest

/-!
# Writing JSON

On one line without blanks, or indented by two spaces with an empty array or object on one line.
Only quotes, backslashes and control characters are escaped. A number that JSON cannot express is
written as null.
-/

namespace BoardSim.Json

def escape (c : Char) : List Char :=
  if c = '\"' then ['\\', '\"']
  else if c = '\\' then ['\\', '\\']
  else if c = '\n' then ['\\', 'n']
  else if c = '\r' then ['\\', 'r']
  else if c = '\t' then ['\\', 't']
  else if c = '\x08' then ['\\', 'b']
  else if c = '\x0c' then ['\\', 'f']
  else if c.toNat < 0x20 then
    ['\\', 'u', '0', '0'] ++ (Text.padLeft 2 '0' (Text.hexDigits c.toNat)).toList
  else [c]

def quote (s : String) : String :=
  String.ofList ('\"' :: s.toList.flatMap escape ++ ['\"'])

def scalar : Json → String
  | bool true => "true"
  | bool false => "false"
  | int n => toString n
  | float x => (Decimal.FloatFormat.json.float? x).getD "null"
  | str s => quote s
  | _ => "null"

mutual

/-- The value on one line. -/
def compact : Json → String
  | arr items => "[" ++ ",".intercalate (compactItems items) ++ "]"
  | obj fields => "\x7b" ++ ",".intercalate (compactFields fields) ++ "\x7d"
  | j => scalar j

def compactItems : List Json → List String
  | [] => []
  | j :: rest => compact j :: compactItems rest

def compactFields : List (String × Json) → List String
  | [] => []
  | (name, j) :: rest => (quote name ++ ":" ++ compact j) :: compactFields rest

end

def newline (indent : Nat) : String := "\n" ++ String.ofList (List.replicate indent ' ')

/-- Lines between brackets, each indented by two more than the brackets. -/
def block (opening closing : String) (indent : Nat) (lines : List String) : String :=
  if lines.isEmpty then opening ++ closing
  else
    let inner := newline (indent + 2)
    opening ++ inner ++ ("," ++ inner).intercalate lines ++ newline indent ++ closing

mutual

/-- The value over several lines. -/
def pretty (indent : Nat) : Json → String
  | arr items => block "[" "]" indent (prettyItems (indent + 2) items)
  | obj fields => block "\x7b" "\x7d" indent (prettyFields (indent + 2) fields)
  | j => scalar j

def prettyItems (indent : Nat) : List Json → List String
  | [] => []
  | j :: rest => pretty indent j :: prettyItems indent rest

def prettyFields (indent : Nat) : List (String × Json) → List String
  | [] => []
  | (name, j) :: rest => (quote name ++ ": " ++ pretty indent j) :: prettyFields indent rest

end

end BoardSim.Json
