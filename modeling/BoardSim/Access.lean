/-!
# Memory accesses

The four widths a bus access can have and its two directions.
-/

namespace BoardSim

inductive AccessSize where
  | byte
  | half
  | word
  | double
deriving DecidableEq, Inhabited

namespace AccessSize

def bytes : AccessSize → Nat
  | byte => 1
  | half => 2
  | word => 4
  | double => 8

def ofBytes? : Nat → Option AccessSize
  | 1 => some byte
  | 2 => some half
  | 4 => some word
  | 8 => some double
  | _ => none

theorem ofBytes?_bytes (size : AccessSize) : ofBytes? size.bytes = some size := by
  cases size <;> rfl

theorem bytes_pos (size : AccessSize) : 0 < size.bytes := by
  cases size <;> decide

/-- The low bytes of `value` that an access of this width carries. -/
def cut (size : AccessSize) (value : UInt64) : UInt64 :=
  match size with
  | byte => value &&& 0xFF
  | half => value &&& 0xFFFF
  | word => value &&& 0xFFFFFFFF
  | double => value

end AccessSize

inductive Direction where
  | read
  | write
deriving DecidableEq, Inhabited

end BoardSim
