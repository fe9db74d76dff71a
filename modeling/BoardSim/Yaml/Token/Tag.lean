import BoardSim.Yaml.Cursor
import BoardSim.Yaml.Tag
import BoardSim.Yaml.Token

/-!
# Directives, anchors and tags
-/

namespace BoardSim.Yaml.Cursor

-- ---------------------------------------------------------------------------
-- Tags
-- ---------------------------------------------------------------------------

/-- A byte written as a percent sign and two hexadecimal digits. -/
def escapedByte? (c : Cursor) : Option UInt8 :=
  match c.peek?, c.peek? 1, c.peek? 2 with
  | some '%', some high, some low => do
    let high ← Text.digit? 16 high
    let low ← Text.digit? 16 low
    pure (UInt8.ofNat (high * 16 + low))
  | _, _, _ => none

/-- How many bytes follow the first byte of a character in UTF-8. -/
def following? (byte : UInt8) : Option Nat :=
  if byte < 0x80 then some 0
  else if 0xC0 ≤ byte ∧ byte < 0xE0 then some 1
  else if 0xE0 ≤ byte ∧ byte < 0xF0 then some 2
  else if 0xF0 ≤ byte ∧ byte < 0xF8 then some 3
  else none

/-- The bytes after the first one of an escaped character. -/
def continuation? : Nat → List UInt8 → Cursor → Option (List UInt8 × Cursor)
  | 0, done, c => some (done.reverse, c)
  | n + 1, done, c => do
    let byte ← c.escapedByte?
    if 0x80 ≤ byte ∧ byte < 0xC0 then continuation? n (byte :: done) (c.skip 3) else none

/-- The bytes of an escaped character. Their number is right, but they may stand for none. -/
def escapedBytes? (c : Cursor) : Option (List UInt8 × Cursor) := do
  let first ← c.escapedByte?
  continuation? (← following? first) [first] (c.skip 3)

/-- The marks that a URI may hold beside names. -/
def uriMarks : List Char :=
  [';', '/', '?', ':', '@', '&', '=', '+', '$', '.', '!', '~', '*', '\'', '(', ')']

def isUriChar (verbatim : Bool) (c : Char) : Bool :=
  isNameChar c || uriMarks.contains c || (verbatim && [',', '[', ']'].contains c)

/-- The bytes of a URI, with escapes resolved. -/
def uriBytes? (verbatim : Bool) : Nat → List UInt8 → Cursor → Option (List UInt8 × Cursor)
  | 0, _, _ => none
  | fuel + 1, done, c =>
    match c.peek? with
    | none => some (done, c)
    | some char =>
      if char == '%' then do
        let (bytes, c) ← c.escapedBytes?
        uriBytes? verbatim fuel (done ++ bytes) c
      else if isUriChar verbatim char then
        uriBytes? verbatim fuel (done ++ asciiBytes [char]) c.skip
      else some (done, c)

/-- A zero byte ends a URI; what is written after it does not count. -/
def upToZero (bytes : List UInt8) : List UInt8 := bytes.takeWhile (· ≠ 0)

/-- A URI for which something is written. -/
def uri? (verbatim : Bool) (c : Cursor) : Option (List UInt8 × Cursor) := do
  let (bytes, c) ← uriBytes? verbatim (c.rest.length + 1) [] c
  if bytes.isEmpty then none else pure (upToZero bytes, c)

/-- The text of a tag up to a second exclamation mark, if it has one. -/
def handle? (c : Cursor) : Option (List Char × Cursor) :=
  if !c.isAt '!' then none
  else
    let (name, c) := c.skip.takeWhile isNameChar
    if c.isAt '!' then some ('!' :: name ++ ['!'], c.skip) else some ('!' :: name, c)

/-- The handle names a shorthand, as `!!` and `!name!` do. -/
def isShorthand (handle : List Char) : Bool := 1 < handle.length && handle.getLast? == some '!'

def afterTag? (inFlow : Bool) (token : Token) (c : Cursor) : Option (Token × Cursor) :=
  if c.isGapAt || (inFlow && c.isAt ',') then some (token, c) else none

/-- A tag: verbatim, a shorthand with its handle, or local. -/
def tag? (inFlow : Bool) (c : Cursor) : Option (Token × Cursor) := do
  if c.isAt '<' 1 then
    let (suffix, c) ← (c.skip 2).uri? true
    if c.isAt '>' then c.skip.afterTag? inFlow (.tag "" suffix) else none
  else
    let (handle, c) ← c.handle?
    if isShorthand handle then
      let (suffix, c) ← c.uri? false
      c.afterTag? inFlow (.tag (String.ofList handle) suffix)
    else
      let (rest, c) ← uriBytes? false (c.rest.length + 1) [] c
      let suffix := upToZero (asciiBytes (handle.drop 1) ++ rest)
      -- A lone exclamation mark is no shorthand, so no directive changes it.
      c.afterTag? inFlow (if suffix.isEmpty then .tag "" (asciiBytes ['!']) else .tag "!" suffix)

-- ---------------------------------------------------------------------------
-- Anchors
-- ---------------------------------------------------------------------------

def anchorName? (c : Cursor) : Option (String × Cursor) :=
  let (name, c) := c.skip.takeWhile isNameChar
  let ends := c.isGapAt || c.peek?.any ['?', ':', ',', ']', '\x7d', '%', '@', '\x60'].contains
  if name.isEmpty || !ends then none else some (String.ofList name, c)

-- ---------------------------------------------------------------------------
-- Directives
-- ---------------------------------------------------------------------------

def versionNumber? (c : Cursor) : Option (Nat × Cursor) :=
  let (digits, c) := c.takeWhile Char.isDigit
  if digits.isEmpty || 9 < digits.length then none
  else some (digits.foldl (fun n d => n * 10 + (d.toNat - 48)) 0, c)

def versionValue? (c : Cursor) : Option (Token × Cursor) := do
  let (major, c) ← c.skipBlanks.versionNumber?
  if !c.isAt '.' then none
  else
    let (minor, c) ← c.skip.versionNumber?
    pure (.versionDirective major minor, c)

def tagValue? (c : Cursor) : Option (Token × Cursor) := do
  let (handle, c) ← c.skipBlanks.handle?
  if (!isShorthand handle && handle ≠ ['!']) || !c.isBlankAt then none
  else
    let (start, c) ← c.skipBlanks.uri? true
    if c.isGapAt then
      pure (.tagDirective (String.ofList handle) start, c)
    else none

def directive? (c : Cursor) : Option (Token × Cursor) := do
  let (name, c) := c.skip.takeWhile isNameChar
  if name.isEmpty || !c.isGapAt then none
  else
    let (token, c) ←
      if name = ['Y', 'A', 'M', 'L'] then c.versionValue?
      else if name = ['T', 'A', 'G'] then c.tagValue?
      else none
    let c ← c.finishLine?
    pure (token, c)

end BoardSim.Yaml.Cursor
