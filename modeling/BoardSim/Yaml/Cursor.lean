/-!
# A place in a text

A cursor is what is left of a text together with the place it begins at. Lines end at a line
feed, a carriage return, both in that order, or one of the Unicode breaks.
-/

namespace BoardSim.Yaml

/-- The character may appear in a text at all. -/
def isAllowed (c : Char) : Bool :=
  let n := c.toNat
  n == 0x09 || n == 0x0A || n == 0x0D || (0x20 ≤ n && n ≤ 0x7E) || n == 0x85 ||
    (0xA0 ≤ n && n ≤ 0xD7FF) || (0xE000 ≤ n && n ≤ 0xFFFD) || 0x10000 ≤ n

def isBlank (c : Char) : Bool := c == ' ' || c == '\t'

/-- A line or paragraph separator, which is kept as it is. -/
def isSeparator (c : Char) : Bool := c.toNat == 0x2028 || c.toNat == 0x2029

def isBreak (c : Char) : Bool := c == '\n' || c == '\r' || c.toNat == 0x85 || isSeparator c

def isNameChar (c : Char) : Bool := c.isAlphanum || c == '_' || c == '-'

structure Cursor where
  rest : List Char
  /-- How many bytes of UTF-8 lie before it. -/
  index : Nat := 0
  line : Nat := 0
  column : Nat := 0

namespace Cursor

def ofText (text : String) : Cursor := { rest := text.toList }

def atEnd (c : Cursor) : Bool := c.rest.isEmpty

def peek? (c : Cursor) (n : Nat := 0) : Option Char := c.rest[n]?

def isAt (c : Cursor) (char : Char) (n : Nat := 0) : Bool := c.peek? n == some char

def isBlankAt (c : Cursor) (n : Nat := 0) : Bool := (c.peek? n).any isBlank

def isBreakAt (c : Cursor) (n : Nat := 0) : Bool := (c.peek? n).any isBreak

/-- A blank, a line break or the end. -/
def isGapAt (c : Cursor) (n : Nat := 0) : Bool :=
  (c.peek? n).all fun char => isBlank char || isBreak char

def byteCount (text : List Char) : Nat := text.foldl (fun n char => n + char.utf8Size) 0

def skip (c : Cursor) (n : Nat := 1) : Cursor :=
  { c with
    rest := c.rest.drop n
    index := c.index + byteCount (c.rest.take n)
    column := c.column + n }

/-- Read over a line break; the text it stands for. -/
def takeBreak (c : Cursor) : List Char × Cursor :=
  let after (rest : List Char) (n : Nat) : Cursor :=
    { rest, index := c.index + n, line := c.line + 1, column := 0 }
  match c.rest with
  | '\r' :: '\n' :: rest => (['\n'], after rest 2)
  | char :: rest =>
    if isSeparator char then ([char], after rest char.utf8Size)
    else if isBreak char then (['\n'], after rest char.utf8Size)
    else ([], c)
  | [] => ([], c)

/-- The longest run of characters of one line that satisfy `p`. -/
def takeWhile (c : Cursor) (p : Char → Bool) : List Char × Cursor :=
  let run := c.rest.takeWhile p
  (run, c.skip run.length)

def skipWhile (c : Cursor) (p : Char → Bool) : Cursor := (c.takeWhile p).2

def skipBlanks (c : Cursor) : Cursor := c.skipWhile isBlank

def skipComment (c : Cursor) : Cursor :=
  if c.isAt '#' then c.skipWhile (!isBreak ·) else c

/-- The rest of a line holds nothing but blanks and a comment. -/
def finishLine? (c : Cursor) : Option Cursor :=
  let c := c.skipBlanks.skipComment
  if c.atEnd then some c else if c.isBreakAt then some c.takeBreak.2 else none

/-- A line begins here with three marks that stand alone. -/
def isMarker (c : Cursor) (mark : Char) : Bool :=
  c.column == 0 && c.isAt mark && c.isAt mark 1 && c.isAt mark 2 && c.isGapAt 3

def isDocumentMarker (c : Cursor) : Bool := c.isMarker '-' || c.isMarker '.'

end Cursor

end BoardSim.Yaml
