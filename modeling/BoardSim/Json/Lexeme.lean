import BoardSim.Text.Integer

/-!
# The words of JSON

Blanks, numerals and escapes, as they are spelled and before they mean anything. The grammar is
strict: no numeral has a leading zero or ends in a point, and nothing but the escapes listed here
follows a backslash.
-/

namespace BoardSim.Json

def isBlank (c : Char) : Bool := c == ' ' || c == '\n' || c == '\t' || c == '\r'

def skipBlanks : List Char → List Char := List.dropWhile isBlank

-- ---------------------------------------------------------------------------
-- Numerals
-- ---------------------------------------------------------------------------

def digitValue (c : Char) : Nat := c.toNat - 48

/-- An unsigned number as it is written. -/
structure Numeral where
  whole : List Char
  /-- The digits after the point, if there is one. -/
  fraction : Option (List Char)
  exponent : Option Int

/-- Digits, of which there is at least one. -/
def digits? (cs : List Char) : Option (List Char × List Char) :=
  let digits := cs.takeWhile Char.isDigit
  if digits.isEmpty then none else some (digits, cs.dropWhile Char.isDigit)

/-- The fraction of a numeral after its whole part, if it has one. -/
def fraction? : List Char → Option (Option (List Char) × List Char)
  | '.' :: rest => (digits? rest).map fun (digits, rest) => (some digits, rest)
  | cs => some (none, cs)

/-- The part after the mark of an exponent: sign and digits. -/
def signedDigits? (cs : List Char) : Option (Int × List Char) := do
  let (negative, cs) :=
    match cs with
    | '-' :: rest => (true, rest)
    | '+' :: rest => (false, rest)
    | cs => (false, cs)
  let (digits, rest) ← digits? cs
  let n : Int := digits.foldl (fun n c => n * 10 + digitValue c) 0
  pure (if negative then -n else n, rest)

/-- The exponent of a numeral, if it has one. -/
def exponent? : List Char → Option (Option Int × List Char)
  | 'e' :: rest | 'E' :: rest => (signedDigits? rest).map fun (n, rest) => (some n, rest)
  | cs => some (none, cs)

/-- The longest numeral at the beginning. -/
def numeral? (cs : List Char) : Option (Numeral × List Char) := do
  let (whole, cs) ← digits? cs
  if whole.head? == some '0' && whole.length ≠ 1 then none
  let (fraction, cs) ← fraction? cs
  let (exponent, cs) ← exponent? cs
  pure ({ whole, fraction, exponent }, cs)

-- ---------------------------------------------------------------------------
-- Escapes
-- ---------------------------------------------------------------------------

/-- Four hexadecimal digits. -/
def unit? : List Char → Option (Nat × List Char)
  | a :: b :: c :: d :: rest => do
    let a ← Text.digit? 16 a
    let b ← Text.digit? 16 b
    let c ← Text.digit? 16 c
    let d ← Text.digit? 16 d
    pure (((a * 16 + b) * 16 + c) * 16 + d, rest)
  | _ => none

/-- The character that one after a backslash stands for. -/
def escaped? : Char → Option Char
  | '\"' => some '\"'
  | '\\' => some '\\'
  | '/' => some '/'
  | 'b' => some '\x08'
  | 'f' => some '\x0c'
  | 'n' => some '\n'
  | 'r' => some '\r'
  | 't' => some '\t'
  | _ => none

/-- Characters that a string cannot hold as they are. -/
def isControl (c : Char) : Bool := c.toNat < 0x20

/-- Take `word` off the beginning. -/
def word? (word cs : List Char) : Option (List Char) :=
  if word.isPrefixOf cs then some (cs.drop word.length) else none

end BoardSim.Json
