/-!
# Hexadecimal numbers

Lower-case hexadecimal with the `0x` mark, as addresses and sizes are written in messages.
-/

namespace BoardSim.Text

/-- The hexadecimal digits of `n`, without leading zeros. -/
def hexDigits (n : Nat) : String := String.ofList (Nat.toDigits 16 n)

def hex (n : Nat) : String := "0x" ++ hexDigits n

def padLeft (width : Nat) (fill : Char) (text : String) : String :=
  String.ofList (List.replicate (width - text.length) fill) ++ text

/-- Hexadecimal with the mark counted in the width and zeros after it. -/
def hexPadded (width n : Nat) : String := "0x" ++ padLeft (width - 2) '0' (hexDigits n)

end BoardSim.Text
