import BoardSim.Yaml.Token.Scalar
import BoardSim.Yaml.Token.Tag

/-!
# From text to tokens

Outside brackets the column of a token decides which blocks begin and end before it. A mapping key
need not be marked: whatever can be one is remembered with its place among the tokens, and when a
colon follows on the same line, within `maxKeyLength` bytes, the marks are put there.
-/

namespace BoardSim.Yaml

/-- A token that may turn out to be a key. -/
structure KeyCandidate where
  place : Nat
  index : Nat
  line : Nat
  column : Nat
  /-- It can be nothing but a key, as it begins a line of a block mapping. -/
  required : Bool

structure Lexer where
  cursor : Cursor
  tokens : Array Token := #[]
  /-- The columns of the open blocks, innermost first. Outside all of them it is -1. -/
  indents : List Int := []
  /-- The candidate of each open bracket, innermost first, and of the block around them. -/
  candidates : List (Option KeyCandidate) := [none]
  keyAllowed : Bool := true

namespace Lexer

def maxKeyLength : Nat := 1024

def indent (l : Lexer) : Int := l.indents.headD (-1)

def inFlow (l : Lexer) : Bool := 1 < l.candidates.length

def push (l : Lexer) (token : Token) : Lexer := { l with tokens := l.tokens.push token }

def insert (l : Lexer) (place : Nat) (token : Token) : Lexer :=
  { l with tokens := l.tokens.insertIdxIfInBounds place token }

def candidate? (l : Lexer) : Option KeyCandidate := l.candidates.head?.join

def setCandidate (l : Lexer) (candidate : Option KeyCandidate) : Lexer :=
  { l with candidates := candidate :: l.candidates.tail }

/-- Give the current candidate up; a required one must not be. -/
def dropCandidate? (l : Lexer) : Option Lexer :=
  if l.candidate?.any (·.required) then none else some (l.setCandidate none)

/-- The token that comes next may be a key. -/
def saveCandidate? (l : Lexer) : Option Lexer :=
  if !l.keyAllowed then some l
  else do
    let c := l.cursor
    -- At the indentation of a block mapping nothing but a key can begin.
    let required := !l.inFlow && l.indent = c.column
    let l ← l.dropCandidate?
    pure (l.setCandidate
      (some { place := l.tokens.size, index := c.index, line := c.line, column := c.column,
              required }))

def isStale (l : Lexer) (k : KeyCandidate) : Bool :=
  k.line < l.cursor.line || k.index + maxKeyLength < l.cursor.index

def dropStale? (l : Lexer) : Option Lexer :=
  if l.candidates.any (·.any fun k => l.isStale k && k.required) then none
  else some { l with candidates := l.candidates.map (·.filter (!l.isStale ·)) }

/-- Open a block at `column` unless one is open there. Its first token goes to `place`. -/
def openBlock (l : Lexer) (column place : Nat) (token : Token) : Lexer :=
  if !l.inFlow && l.indent < column then
    ({ l with indents := (column : Int) :: l.indents }).insert place token
  else l

def closeBlocks (l : Lexer) (column : Int) : Lexer :=
  if l.inFlow then l
  else
    let deeper := l.indents.takeWhile (column < ·)
    { l with
      indents := l.indents.drop deeper.length
      tokens := l.tokens ++ Array.replicate deeper.length .blockEnd }

/-- Go to the next token, over blanks, comments and line breaks. A tab is a blank only where no
key may begin, and a byte order mark may begin a line. -/
def toNextToken : Nat → Lexer → Lexer
  | 0, l => l
  | fuel + 1, l =>
    let mayTab := l.inFlow || !l.keyAllowed
    let c := l.cursor
    let c := if c.column = 0 && c.isAt '\ufeff' then c.skip else c
    let c := (c.skipWhile fun char => char == ' ' || (mayTab && char == '\t')).skipComment
    if c.isBreakAt then
      toNextToken fuel
        { l with cursor := c.takeBreak.2, keyAllowed := l.keyAllowed || !l.inFlow }
    else { l with cursor := c }

-- ---------------------------------------------------------------------------
-- Single tokens
-- ---------------------------------------------------------------------------

def take (l : Lexer) (length : Nat) (token : Token) : Lexer :=
  { l.push token with cursor := l.cursor.skip length }

def allowKey (l : Lexer) (allowed : Bool) : Lexer := { l with keyAllowed := allowed }

def documentToken? (l : Lexer) (token : Token) : Option Lexer := do
  let l ← (l.closeBlocks (-1)).dropCandidate?
  pure ((l.allowKey false).take 3 token)

def directiveToken? (l : Lexer) : Option Lexer := do
  let l ← (l.closeBlocks (-1)).dropCandidate?
  let (token, cursor) ← l.cursor.directive?
  pure { (l.allowKey false).push token with cursor }

def openFlow? (l : Lexer) (token : Token) : Option Lexer := do
  let l ← l.saveCandidate?
  pure ((({ l with candidates := none :: l.candidates }).allowKey true).take 1 token)

def closeFlow? (l : Lexer) (token : Token) : Option Lexer := do
  let l ← l.dropCandidate?
  let l := if l.inFlow then { l with candidates := l.candidates.tail } else l
  pure ((l.allowKey false).take 1 token)

def flowEntry? (l : Lexer) : Option Lexer := do
  let l ← l.dropCandidate?
  pure ((l.allowKey true).take 1 .flowEntry)

/-- An indicator that opens a block at its column. -/
def blockIndicator? (l : Lexer) (first : Token) : Option Lexer :=
  if l.inFlow then some l
  else if l.keyAllowed then some (l.openBlock l.cursor.column l.tokens.size first)
  else none

def blockEntry? (l : Lexer) : Option Lexer := do
  let l ← l.blockIndicator? .blockSequenceStart
  let l ← l.dropCandidate?
  pure ((l.allowKey true).take 1 .blockEntry)

def key? (l : Lexer) : Option Lexer := do
  let l ← l.blockIndicator? .blockMappingStart
  let l ← l.dropCandidate?
  pure ((l.allowKey !l.inFlow).take 1 .key)

/-- A colon makes the candidate a key, or stands for itself. -/
def value? (l : Lexer) : Option Lexer := do
  match l.candidate? with
  | some k =>
    -- The start of the block goes before the mark of the key, so it is put there last.
    let l := (l.insert k.place .key).openBlock k.column k.place .blockMappingStart
    pure (((l.setCandidate none).allowKey false).take 1 .value)
  | none =>
    let l ← l.blockIndicator? .blockMappingStart
    pure ((l.allowKey !l.inFlow).take 1 .value)

def anchorToken? (l : Lexer) (token : String → Token) : Option Lexer := do
  let l ← l.saveCandidate?
  let (name, cursor) ← l.cursor.anchorName?
  pure { (l.allowKey false).push (token name) with cursor }

def tagToken? (l : Lexer) : Option Lexer := do
  let l ← l.saveCandidate?
  let (token, cursor) ← l.cursor.tag? l.inFlow
  pure { (l.allowKey false).push token with cursor }

def blockScalar? (l : Lexer) (style : ScalarStyle) : Option Lexer := do
  let l ← l.dropCandidate?
  let (text, cursor) ← l.cursor.skip.block? (style = .folded) l.indent
  pure { (l.allowKey true).push (.scalar (String.ofList text) style) with cursor }

def quotedScalar? (l : Lexer) (style : ScalarStyle) : Option Lexer := do
  let l ← l.saveCandidate?
  let c := l.cursor.skip
  let (text, cursor) ← c.quoted? (style = .single) (c.rest.length + 1) []
  pure { (l.allowKey false).push (.scalar (String.ofList text) style) with cursor }

def plainScalar? (l : Lexer) : Option Lexer := do
  let l ← l.saveCandidate?
  let c := l.cursor
  let (text, broken, cursor) ←
    c.plain? l.inFlow (l.indent + 1).toNat (c.rest.length + 1) [] {}
  pure { (l.allowKey broken).push (.scalar (String.ofList text) .plain) with cursor }

def isIndicator (c : Char) : Bool :=
  ['-', '?', ':', ',', '[', ']', '\x7b', '\x7d', '#', '&', '*', '!', '|', '>', '\'', '\"', '%', '@',
    '\x60'].contains c

/-- A plain scalar can begin here. -/
def startsPlain (l : Lexer) : Bool :=
  let c := l.cursor
  !(c.isGapAt || c.peek?.any isIndicator) ||
    (c.isAt '-' && !c.isBlankAt 1) ||
    (!l.inFlow && (c.isAt '?' || c.isAt ':') && !c.isGapAt 1)

def token? (l : Lexer) : Option Lexer :=
  let c := l.cursor
  if c.column = 0 && c.isAt '%' then l.directiveToken?
  else if c.isMarker '-' then l.documentToken? .documentStart
  else if c.isMarker '.' then l.documentToken? .documentEnd
  else if c.isAt '[' then l.openFlow? .flowSequenceStart
  else if c.isAt '\x7b' then l.openFlow? .flowMappingStart
  else if c.isAt ']' then l.closeFlow? .flowSequenceEnd
  else if c.isAt '\x7d' then l.closeFlow? .flowMappingEnd
  else if c.isAt ',' then l.flowEntry?
  else if c.isAt '-' && c.isGapAt 1 then l.blockEntry?
  else if c.isAt '?' && (l.inFlow || c.isGapAt 1) then l.key?
  else if c.isAt ':' && (l.inFlow || c.isGapAt 1) then l.value?
  else if c.isAt '*' then l.anchorToken? .aliasOf
  else if c.isAt '&' then l.anchorToken? .anchor
  else if c.isAt '!' then l.tagToken?
  else if c.isAt '|' && !l.inFlow then l.blockScalar? .literal
  else if c.isAt '>' && !l.inFlow then l.blockScalar? .folded
  else if c.isAt '\'' then l.quotedScalar? .single
  else if c.isAt '\"' then l.quotedScalar? .double
  else if l.startsPlain then l.plainScalar?
  else none

/-- Read tokens up to the end of the text. As each takes a character at least, the fuel that is left
is enough for what stands between two of them. -/
def run? : Nat → Lexer → Option Lexer
  | 0, _ => none
  | fuel + 1, l => do
    let l := toNextToken fuel l
    let l ← l.dropStale?
    -- The next token is outside every block that is indented deeper than it.
    let l := l.closeBlocks l.cursor.column
    if l.cursor.atEnd then (l.closeBlocks (-1)).dropCandidate?
    else
      let l ← l.token?
      run? fuel l

end Lexer

def Token.ofText? (text : String) : Option (List Token) := do
  if !text.toList.all isAllowed then none
  else
    let l ← Lexer.run? (text.length + 2) { cursor := Cursor.ofText text }
    pure l.tokens.toList

end BoardSim.Yaml
