import BoardSim.Access
import BoardSim.Register

/-!
# Peripherals as firmware sees them

A peripheral is a layout, the words its registers hold and two hooks, one that fetches the word a
read returns and one that commits a written word. Every access, whatever its width and alignment,
is made of register reads and writes by `Peripheral.load` and `Peripheral.store`:

* an access inside one word is one register access;
* an aligned 8-byte access is the low word, then the high word;
* any other access goes byte by byte, so the hooks run once per byte.
-/

namespace BoardSim

structure TickResult where
  /-- The device requests its own line. -/
  irq : Bool := false
  /-- Further lines it requests, by number. -/
  explicit : List UInt32 := []
deriving DecidableEq, Inhabited

namespace TickResult

def quiet : TickResult := {}

def line (irq : Bool) : TickResult := { irq }

def isRequest (r : TickResult) : Bool := r.irq || !r.explicit.isEmpty

end TickResult

class Peripheral (δ : Type) where
  layout : δ → Layout
  /-- The word register `i` holds. -/
  held : δ → Nat → UInt32
  /-- Replace the word register `i` holds. -/
  put : δ → Nat → UInt32 → δ
  /-- The word a read of register `i` returns, and what fetching it does. -/
  fetch : δ → Nat → UInt32 × δ := fun d i => (held d i, d)
  /-- A write of the whole word of register `i`. -/
  commit : δ → Nat → UInt32 → δ := fun d i word =>
    put d i ((layout d).onRegister i (·.store (held d i) word) (held d i))

namespace Peripheral

variable {δ : Type} [Peripheral δ]

/-- The read action of register `i`, after its word has been fetched. -/
def settle (d : δ) (i : Nat) : δ :=
  match ((layout d)[i]?).map Register.onRead with
  | some (.clear mask) => put d i (held d i &&& ~~~mask)
  | _ => d

/-- Read the register at `offset`; an offset without a register reads as zero. -/
def read (d : δ) (offset : UInt64) : UInt32 × δ :=
  match (layout d).indexOf? offset with
  | none => (0, d)
  | some i =>
    let (word, d) := fetch d i
    (word, settle d i)

/-- Write the register at `offset`; an offset without a register ignores the write. -/
def write (d : δ) (offset : UInt64) (word : UInt32) : δ :=
  match (layout d).indexOf? offset with
  | none => d
  | some i => commit d i word

/-- The offset of the word that holds the byte at `offset`. -/
def wordOffset (offset : UInt64) : UInt64 := offset &&& ~~~3

/-- How far the byte at `offset` is shifted within its word. -/
def laneShift (offset : UInt64) : UInt32 := (offset % 4 * 8).toUInt32

/-- The bits of the word that an access of `bytes` bytes at `offset` covers. -/
def laneMask (offset : UInt64) (bytes : Nat) : UInt32 :=
  if 4 ≤ bytes then 0xFFFFFFFF
  else ((1 <<< UInt32.ofNat (bytes * 8)) - 1) <<< laneShift offset

/-- Read `bytes` bytes that lie inside one word. -/
def loadWord (d : δ) (offset : UInt64) (bytes : Nat) : UInt64 × δ :=
  let (word, d) := read d (wordOffset offset)
  (((word &&& laneMask offset bytes) >>> laneShift offset).toUInt64, d)

/-- Write `bytes` bytes that lie inside one word. The other lanes keep what they hold. -/
def storeWord (d : δ) (offset : UInt64) (bytes : Nat) (payload : UInt64) : δ :=
  let lanes := payload.toUInt32 <<< laneShift offset
  let mask := laneMask offset bytes
  if mask = 0xFFFFFFFF then write d (wordOffset offset) lanes
  else
    match (layout d).indexOf? (wordOffset offset) with
    | none => d
    | some i =>
      write d (wordOffset offset)
        ((layout d).onRegister i (·.mergeLanes (held d i) mask lanes) (held d i))

/-- Read `n` bytes one by one, the lowest first. -/
def loadBytes (d : δ) (offset : UInt64) : Nat → UInt64 × δ
  | 0 => (0, d)
  | n + 1 =>
    let (low, d) := loadBytes d offset n
    let (lane, d) := loadWord d (offset + UInt64.ofNat n) 1
    (low ||| (lane <<< UInt64.ofNat (n * 8)), d)

/-- Write the low `n` bytes of `payload` one by one, the lowest first. -/
def storeBytes (d : δ) (offset payload : UInt64) : Nat → δ
  | 0 => d
  | n + 1 =>
    storeWord (storeBytes d offset payload n) (offset + UInt64.ofNat n) 1
      ((payload >>> UInt64.ofNat (n * 8)) &&& 0xFF)

def load (d : δ) (offset : UInt64) (size : AccessSize) : UInt64 × δ :=
  if size = .double ∧ offset % 4 = 0 then
    let (low, d) := loadWord d offset 4
    let (high, d) := loadWord d (offset + 4) 4
    (low ||| (high <<< 32), d)
  else if (offset % 4).toNat + size.bytes ≤ 4 then loadWord d offset size.bytes
  else loadBytes d offset size.bytes

def store (d : δ) (offset : UInt64) (size : AccessSize) (payload : UInt64) : δ :=
  if size = .double ∧ offset % 4 = 0 then
    storeWord (storeWord d offset 4 (payload &&& 0xFFFFFFFF)) (offset + 4) 4 (payload >>> 32)
  else if (offset % 4).toNat + size.bytes ≤ 4 then storeWord d offset size.bytes payload
  else storeBytes d offset payload size.bytes

/-- One access; a write answers zero. -/
def access (d : δ) (offset : UInt64) (size : AccessSize) (direction : Direction)
    (payload : UInt64) : UInt64 × δ :=
  match direction with
  | .read => load d offset size
  | .write => (0, store d offset size payload)

end Peripheral

end BoardSim
