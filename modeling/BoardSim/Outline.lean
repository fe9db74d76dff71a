/-!
# Outlines

Who reads a document often needs some members of it only. An outline says which; all others are
passed over, and what they hold does not matter as long as the text is well formed.
-/

namespace BoardSim

/-- What is read of a value. -/
inductive Outline where
  | whole
  /-- The named members of a mapping, or the items of a sequence in their order. -/
  | record (fields : List (String × Outline))
  /-- Something of each item of a sequence. -/
  | each (item : Outline)

namespace Outline

/-- What is read of the first item of a sequence, and of the sequence after it. -/
def nextItem : Outline → Outline × Outline
  | each item => (item, each item)
  | record ((_, first) :: rest) => (first, record rest)
  | record [] | whole => (whole, whole)

def member? (name : String) : Outline → Option Outline
  | record fields => (fields.find? (·.1 == name)).map (·.2)
  | _ => some whole

end Outline

end BoardSim
