import BoardSim.Text.Integer

/-!
# Tags

A tag names the type of a node. It is a sequence of bytes, as escapes can spell any, and need not
be text. One that begins with an exclamation mark is local; the core schema gives a meaning to some
of the others.
-/

namespace BoardSim.Yaml

def asciiBytes (text : List Char) : List UInt8 := text.map fun c => UInt8.ofNat c.toNat

structure Tag where
  bytes : List UInt8
deriving DecidableEq, Inhabited

namespace Tag

def core (name : String) : Tag := ⟨asciiBytes ("tag:yaml.org,2002:" ++ name).toList⟩

def isLocal (t : Tag) : Bool := t.bytes.head? == some (UInt8.ofNat '!'.toNat)

/-- The name of a local tag, which a lone exclamation mark is itself; `none` if it is no text. -/
def localName? (t : Tag) : Option String :=
  if !t.isLocal then none
  else
    let name := if t.bytes.length = 1 then t.bytes else t.bytes.tail
    String.fromUTF8? ⟨name.toArray⟩

end Tag

end BoardSim.Yaml
