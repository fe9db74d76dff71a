import BoardSim.Text.Integer
import BoardSim.Yaml.Cursor
import BoardSim.Yaml.Token

/-!
# Scalars

The five ways to write a scalar. In all of them but the literal one a single line break between
two parts is read as a space, and of several breaks the first is dropped.
-/

namespace BoardSim.Yaml

/-- White space between two parts of a scalar: blanks, or line breaks with blanks around them. -/
structure Gap where
  blanks : List Char := []
  first : List Char := []
  others : List Char := []
  broken : Bool := false

namespace Gap

/-- The text a gap stands for. -/
def text (g : Gap) : List Char :=
  if !g.broken then g.blanks
  else if g.first.head? == some '\n' then if g.others.isEmpty then [' '] else g.others
  else g.first ++ g.others

def addBreak (g : Gap) (text : List Char) : Gap :=
  if g.broken then { g with others := g.others ++ text }
  else { first := text, broken := true }

end Gap

namespace Cursor

/-- Read a gap. A tab that stands on a new line left of column `indent` is an error. -/
def gap? (indent : Nat) : Nat → Gap → Cursor → Option (Gap × Cursor)
  | 0, _, _ => none
  | fuel + 1, g, c =>
    match c.peek? with
    | none => some (g, c)
    | some char =>
      if isBlank char then
        if g.broken && c.column < indent && char == '\t' then none
        else
          let g := if g.broken then g else { g with blanks := g.blanks ++ [char] }
          gap? indent fuel g c.skip
      else if isBreak char then
        let (text, c) := c.takeBreak
        gap? indent fuel (g.addBreak text) c
      else some (g, c)

-- ---------------------------------------------------------------------------
-- Plain scalars
-- ---------------------------------------------------------------------------

def isFlowIndicator (c : Char) : Bool :=
  c == ',' || c == '[' || c == ']' || c == '\x7b' || c == '\x7d'

def endsPlain (inFlow : Bool) (c : Cursor) : Bool :=
  (c.isAt ':' && c.isGapAt 1) || (inFlow && c.peek?.any isFlowIndicator)

/-- A colon right before an indicator is an error in a flow collection. -/
def isStrayColon (inFlow : Bool) (c : Cursor) : Bool :=
  inFlow && c.isAt ':' && (c.peek? 1).any fun char => isFlowIndicator char || char == '?'

/-- The characters of a plain scalar up to the next gap. -/
def plainRun? (inFlow : Bool) : Nat → List Char → Cursor → Option (List Char × Cursor)
  | 0, _, _ => none
  | fuel + 1, run, c =>
    match c.peek? with
    | none => some (run.reverse, c)
    | some char =>
      if isBlank char || isBreak char then some (run.reverse, c)
      else if c.isStrayColon inFlow then none
      else if c.endsPlain inFlow then some (run.reverse, c)
      else plainRun? inFlow fuel (char :: run) c.skip

/-- A plain scalar whose later lines are indented to column `indent` at least. Besides the text
the result tells whether a line break follows it. -/
def plain? (inFlow : Bool) (indent : Nat) :
    Nat → List Char → Gap → Cursor → Option (List Char × Bool × Cursor)
  | 0, _, _, _ => none
  | fuel + 1, done, g, c =>
    if c.isDocumentMarker || c.isAt '#' then some (done, g.broken, c)
    else do
      let (run, c) ← plainRun? inFlow (c.rest.length + 1) [] c
      let (done, g) := if run.isEmpty then (done, g) else (done ++ g.text ++ run, {})
      if c.atEnd || !c.isGapAt then pure (done, g.broken, c)
      else
        let (g, c) ← gap? indent (c.rest.length + 1) {} c
        if !inFlow && c.column < indent then pure (done, g.broken, c)
        else plain? inFlow indent fuel done g c

-- ---------------------------------------------------------------------------
-- Quoted scalars
-- ---------------------------------------------------------------------------

def simpleEscape? : Char → Option Char
  | '0' => some '\x00'
  | 'a' => some '\x07'
  | 'b' => some '\x08'
  | 't' | '\t' => some '\t'
  | 'n' => some '\n'
  | 'v' => some '\x0b'
  | 'f' => some '\x0c'
  | 'r' => some '\r'
  | 'e' => some '\x1b'
  | ' ' => some ' '
  | '\"' => some '\"'
  | '/' => some '/'
  | '\\' => some '\\'
  | 'N' => some '\u0085'
  | '_' => some '\u00a0'
  | 'L' => some '\u2028'
  | 'P' => some '\u2029'
  | _ => none

def escapeDigits? : Char → Option Nat
  | 'x' => some 2
  | 'u' => some 4
  | 'U' => some 8
  | _ => none

def hexValue? (digits : List Char) : Option Nat :=
  digits.foldlM (fun n c => (Text.digit? 16 c).map (n * 16 + ·)) 0

/-- The character of an escape, at its backslash. -/
def escape? (c : Cursor) : Option (Char × Cursor) := do
  let letter ← c.peek? 1
  match simpleEscape? letter, escapeDigits? letter with
  | some char, _ => pure (char, c.skip 2)
  | none, some count =>
    let digits := (c.skip 2).rest.take count
    let n ← hexValue? digits
    if digits.length = count ∧ (n < 0xD800 ∨ (0xE000 ≤ n ∧ n ≤ 0x10FFFF)) then
      pure (Char.ofNat n, c.skip (2 + count))
    else none
  | none, none => none

/-- The characters of a quoted scalar up to its closing quote or the next gap. An escaped line
break opens a gap without a break of its own. -/
def quotedRun? (single : Bool) : Nat → List Char → Cursor → Option (List Char × Gap × Cursor)
  | 0, _, _ => none
  | fuel + 1, run, c =>
    match c.peek? with
    | none => some (run.reverse, {}, c)
    | some char =>
      if isBlank char || isBreak char then some (run.reverse, {}, c)
      else if single then
        if char ≠ '\'' then quotedRun? single fuel (char :: run) c.skip
        else if c.isAt '\'' 1 then quotedRun? single fuel ('\'' :: run) (c.skip 2)
        else some (run.reverse, {}, c)
      else if char = '\"' then some (run.reverse, {}, c)
      else if char ≠ '\\' then quotedRun? single fuel (char :: run) c.skip
      else if c.isBreakAt 1 then some (run.reverse, { broken := true }, c.skip.takeBreak.2)
      else do
        let (char, c) ← escape? c
        quotedRun? single fuel (char :: run) c

def quoted? (single : Bool) : Nat → List Char → Cursor → Option (List Char × Cursor)
  | 0, _, _ => none
  | fuel + 1, done, c =>
    if c.isDocumentMarker || c.atEnd then none
    else do
      let (run, g, c) ← quotedRun? single (c.rest.length + 1) [] c
      let done := done ++ run
      if !g.broken && c.isAt (if single then '\'' else '\"') then pure (done, c.skip)
      else
        let (g, c) ← gap? 0 (c.rest.length + 1) g c
        if c.isAt (if single then '\'' else '\"') then pure (done ++ g.text, c.skip)
        else quoted? single fuel (done ++ g.text) c

-- ---------------------------------------------------------------------------
-- Block scalars
-- ---------------------------------------------------------------------------

/-- What becomes of the line breaks at the end of a block scalar. -/
inductive Chomping where
  | strip
  | clip
  | keep
deriving DecidableEq

def chomping? (c : Cursor) : Option (Chomping × Cursor) :=
  if c.isAt '+' then some (.keep, c.skip)
  else if c.isAt '-' then some (.strip, c.skip)
  else none

/-- An indentation of one digit; zero is an error. -/
def increment? (c : Cursor) : Option (Option Nat × Cursor) :=
  match c.peek? with
  | some char =>
    if char.isDigit then
      if char == '0' then none else some (some (char.toNat - 48), c.skip)
    else some (none, c)
  | none => some (none, c)

/-- The two indicators after the mark of a block scalar, in either order. -/
def blockHeader? (c : Cursor) : Option (Chomping × Option Nat × Cursor) :=
  match c.chomping? with
  | some (chomping, c) => do
    let (increment, c) ← c.increment?
    pure (chomping, increment, c)
  | none => do
    let (increment, c) ← c.increment?
    if increment.isNone then pure (.clip, increment, c)
    else
      let (chomping, c) := (c.chomping?).getD (.clip, c)
      pure (chomping, increment, c)

/-- Empty lines before a line of a block scalar, and the deepest column seen. Without an `indent`
all leading spaces are skipped. A tab in the indentation is an error. -/
def emptyLines? (indent : Option Nat) :
    Nat → Nat → List Char → Cursor → Option (List Char × Nat × Cursor)
  | 0, _, _, _ => none
  | fuel + 1, deepest, breaks, c =>
    let spaces := (c.rest.takeWhile (· == ' ')).length
    let c := c.skip (match indent with
      | some indent => min spaces (indent - c.column)
      | none => spaces)
    let deepest := max deepest c.column
    if (indent.all (c.column < ·)) && c.isAt '\t' then none
    else if !c.isBreakAt then some (breaks, deepest, c)
    else
      let (text, c) := c.takeBreak
      emptyLines? indent fuel deepest (breaks ++ text) c

/-- The parts of a block scalar that are not settled until the next line. -/
structure BlockTail where
  /-- The break that ends the latest line, and the empty lines after it. -/
  last : List Char := []
  empty : List Char := []
  /-- The latest line begins with a blank. -/
  indented : Bool := false

/-- What stands between two lines of a block scalar. A folded one joins two lines that do not
begin with a blank. -/
def BlockTail.text (t : BlockTail) (isFolded nextIndented : Bool) : List Char :=
  if isFolded && t.last.head? == some '\n' && !t.indented && !nextIndented then
    if t.empty.isEmpty then [' '] else t.empty
  else t.last ++ t.empty

def blockLines? (isFolded : Bool) (indent : Nat) :
    Nat → List Char → BlockTail → Cursor → Option (List Char × BlockTail × Cursor)
  | 0, _, _, _ => none
  | fuel + 1, done, t, c =>
    if c.column ≠ indent || c.atEnd then some (done, t, c)
    else
      let nextIndented := c.isBlankAt
      let (line, c) := c.takeWhile (!isBreak ·)
      let (last, c) := c.takeBreak
      match emptyLines? (some indent) (c.rest.length + 1) 0 [] c with
      | none => none
      | some (empty, _, c) =>
        blockLines? isFolded indent fuel (done ++ t.text isFolded nextIndented ++ line)
          { last, empty, indented := nextIndented } c

/-- A block scalar after its mark, in a block that is indented to `outer`. -/
def block? (isFolded : Bool) (outer : Int) (c : Cursor) : Option (List Char × Cursor) := do
  let (chomping, increment, c) ← c.blockHeader?
  let c := c.skipBlanks.skipComment
  if !(c.atEnd || c.isBreakAt) then none
  else
    let c := c.takeBreak.2
    let given := increment.map fun n => n + outer.toNat
    let (empty, deepest, c) ← emptyLines? given (c.rest.length + 1) 0 [] c
    let indent := given.getD (max deepest (max (outer + 1).toNat 1))
    let (done, t, c) ← blockLines? isFolded indent (c.rest.length + 1) [] { empty } c
    let ending :=
      match chomping with
      | .strip => []
      | .clip => t.last
      | .keep => t.last ++ t.empty
    pure (done ++ ending, c)

end Cursor

end BoardSim.Yaml
