import BoardSim.Can.Frame
import BoardSim.Text.Class
import BoardSim.Text.Integer

/-!
# Option values

The two values with a syntax of their own: a CAN frame, written `ID#DATA` in hexadecimal, and a
16-bit number.
-/

namespace BoardSim.Command

open Text (IntegerError)

inductive ValueError where
  /-- There is no `#` between identifier and data. -/
  | noData
  | identifier (e : IntegerError)
  /-- The data are not up to eight bytes of two digits. -/
  | payloadLength
  | payload (e : IntegerError)
  | number (e : IntegerError)
deriving DecidableEq

/-- What is wrong with `text`. -/
def ValueError.message (text : String) : ValueError → String
  | noData => "Invalid frame '" ++ text ++ "': expected ID#DATA"
  | identifier e => "Invalid CAN id in '" ++ text ++ "': " ++ e.message
  | payloadLength => "Invalid payload in '" ++ text ++ "': need 0-8 hex bytes"
  | payload e => "Invalid payload in '" ++ text ++ "': " ++ e.message
  | number e => "Invalid value '" ++ text ++ "': " ++ e.message

-- ---------------------------------------------------------------------------
-- Frames
-- ---------------------------------------------------------------------------

/-- Remove every `0x` at the beginning. -/
def stripMarks : List Char → List Char
  | '0' :: 'x' :: rest => stripMarks rest
  | text => text

def bytesOfPairs : List Char → Except IntegerError (List UInt8)
  | high :: low :: rest => do
    let byte ← Text.unsigned 16 256 [high, low]
    let bytes ← bytesOfPairs rest
    pure (UInt8.ofNat byte :: bytes)
  | _ => .ok []

def isAscii (c : Char) : Bool := c.toNat < 128

def payloadOf (text : List Char) : Except ValueError (List UInt8) :=
  if !text.all isAscii || text.length % 2 ≠ 0 || 16 < text.length then .error .payloadLength
  else (bytesOfPairs text).mapError .payload

/-- Read a frame. An identifier that does not fit eleven bits makes it an extended one. -/
def frameOf (text : List Char) : Except ValueError Can.Frame := do
  match text.dropWhile (· ≠ '#') with
  | [] => throw .noData
  | _ :: data =>
    let id ← (Text.unsigned 16 UInt32.size (stripMarks (text.takeWhile (· ≠ '#')))).mapError
      .identifier
    let payload ← payloadOf data
    if Can.standardIdMask < UInt32.ofNat id then
      pure (.extendedData (UInt32.ofNat id) payload)
    else pure (.standard (UInt32.ofNat id) payload)

-- ---------------------------------------------------------------------------
-- Numbers
-- ---------------------------------------------------------------------------

/-- Read a 16-bit number, in hexadecimal after `0x`, with white space around it. -/
def wordOf (text : List Char) : Except ValueError UInt16 := do
  let n ←
    (match Text.trim text with
    | '0' :: 'x' :: digits => Text.unsigned 16 UInt16.size digits
    | digits => Text.unsigned 10 UInt16.size digits).mapError .number
  pure (UInt16.ofNat n)

end BoardSim.Command
