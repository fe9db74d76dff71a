import BoardSim.Json.Lexeme

/-!
# Passing over JSON

A value that nobody asks for is passed over: its text has to be well formed, and that is all. So it
may hold numbers beyond every double, unpaired surrogates, and brackets as deep as the text is long.
-/

namespace BoardSim.Json

/-- The text after a string whose opening quote has been read. -/
def skipString? : List Char → Option (List Char)
  | [] => none
  | '\"' :: rest => some rest
  | '\\' :: 'u' :: a :: b :: c :: d :: rest =>
    if [a, b, c, d].all (Text.digit? 16 · |>.isSome) then skipString? rest else none
  | '\\' :: c :: rest => if (escaped? c).isSome then skipString? rest else none
  | c :: rest => if isControl c then none else skipString? rest

/-- The text after a value that is neither an array nor an object. -/
def skipScalar? : List Char → Option (List Char)
  | 'n' :: rest => word? ['u', 'l', 'l'] rest
  | 't' :: rest => word? ['r', 'u', 'e'] rest
  | 'f' :: rest => word? ['a', 'l', 's', 'e'] rest
  | '\"' :: rest => skipString? rest
  | '-' :: rest => (numeral? rest).map (·.2)
  | cs => (numeral? cs).map (·.2)

/-- The text after the name of a member and its colon. -/
def skipName? (cs : List Char) : Option (List Char) :=
  match skipBlanks cs with
  | '\"' :: rest => do
    let rest ← skipString? rest
    match skipBlanks rest with
    | ':' :: rest => pure rest
    | _ => none
  | _ => none

/-- Brackets that may be open. -/
inductive Bracket where
  | square
  | curly
deriving DecidableEq

namespace Bracket

def closing : Bracket → Char
  | square => ']'
  | curly => '\x7d'

/-- The text where the next value between these brackets begins. -/
def skipToValue? : Bracket → List Char → Option (List Char)
  | square, cs => some cs
  | curly, cs => skipName? cs

/-- Close the brackets that end here, innermost first. -/
def close : List Bracket → List Char → List Bracket × List Char
  | [], cs => ([], cs)
  | b :: outer, cs =>
    match skipBlanks cs with
    | c :: rest => if c = b.closing then close outer rest else (b :: outer, c :: rest)
    | [] => (b :: outer, [])

end Bracket

/-- The bracket that begins here, and the text after it. -/
def bracket? : List Char → Option (Bracket × List Char)
  | '[' :: rest => some (.square, rest)
  | '\x7b' :: rest => some (.curly, rest)
  | _ => none

/-- Go on after a value: the brackets still open, and the text where the next value between them
begins. -/
def afterValue? (around : List Bracket) (cs : List Char) : Option (List Bracket × List Char) :=
  match Bracket.close around cs with
  | ([], rest) => some ([], rest)
  | (b :: outer, ',' :: rest) => (b.skipToValue? rest).map (b :: outer, ·)
  | _ => none

/-- Go on after an opening bracket. -/
def Bracket.afterOpening? (b : Bracket) (around : List Bracket) (cs : List Char) :
    Option (List Bracket × List Char) :=
  match skipBlanks cs with
  | [] => none
  | c :: rest =>
    if c = b.closing then afterValue? around rest
    else (b.skipToValue? (c :: rest)).map (b :: around, ·)

/-- The text after the value that begins here and all that is left between the brackets around it;
`fuel` bounds the number of values. -/
def skipValues? (fuel : Nat) (around : List Bracket) (cs : List Char) : Option (List Char) :=
  match fuel with
  | 0 => none
  | fuel + 1 => do
    let cs := skipBlanks cs
    let (around, rest) ←
      match bracket? cs with
      | some (b, rest) => b.afterOpening? around rest
      | none => (skipScalar? cs).bind (afterValue? around)
    if around.isEmpty then pure rest else skipValues? fuel around rest

/-- The text after one value. -/
def skipValue? (cs : List Char) : Option (List Char) := skipValues? (cs.length + 1) [] cs

end BoardSim.Json
