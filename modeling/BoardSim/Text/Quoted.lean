import BoardSim.Text.Hex
import BoardSim.Text.Visible

/-!
# Quoted text

File names appear in messages between double quotes, with what does not show as itself escaped.
-/

namespace BoardSim.Text

def escaped (c : Char) : List Char :=
  if c = '\x00' then ['\\', '0']
  else if c = '\t' then ['\\', 't']
  else if c = '\n' then ['\\', 'n']
  else if c = '\r' then ['\\', 'r']
  else if c = '\\' ∨ c = '\"' then ['\\', c]
  else if isVisible c then [c]
  else ['\\', 'u', '\x7b'] ++ (hexDigits c.toNat).toList ++ ['\x7d']

def quoted (text : String) : String :=
  String.ofList ('\"' :: text.toList.flatMap escaped ++ ['\"'])

end BoardSim.Text
