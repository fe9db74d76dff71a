/-!
# Registers

A register is described once: its name, offset, reset value, the bits firmware may write and what
a read or a write does beside moving the word. The description is static; the word it holds lives
in a `RegisterFile`. `Register.store` is the effect of a whole-word write on the held word, and
`Register.mergeLanes` builds the word that makes a narrower write touch its own lanes only.
-/

namespace BoardSim

def anySet (word mask : UInt32) : Bool := word &&& mask != 0

inductive ReadAction where
  | keep
  | clear (mask : UInt32)
deriving DecidableEq, Inhabited

inductive WriteAction where
  | replace
  /-- Writing 1 clears the bit, writing 0 leaves it. -/
  | clearOnes
  /-- Writing 0 clears the bit, writing 1 leaves it. -/
  | clearZeros
deriving DecidableEq, Inhabited

structure Register where
  name : String
  offset : UInt64
  reset : UInt32 := 0
  /-- The bits a firmware write can change. -/
  writable : UInt32 := 0xFFFFFFFF
  onRead : ReadAction := .keep
  onWrite : WriteAction := .replace
deriving DecidableEq, Inhabited

namespace Register

/-- The word a write would leave if every bit were writable. -/
def combine (r : Register) (held written : UInt32) : UInt32 :=
  match r.onWrite with
  | .replace => written
  | .clearOnes => held &&& ~~~written
  | .clearZeros => held &&& written

def store (r : Register) (held written : UInt32) : UInt32 :=
  (held &&& ~~~r.writable) ||| (r.combine held written &&& r.writable)

/-- The lanes outside an access, filled so that the write action leaves them alone. -/
def fill (r : Register) (held : UInt32) : UInt32 :=
  match r.onWrite with
  | .replace => held
  | .clearOnes => 0
  | .clearZeros => 0xFFFFFFFF

/-- The whole word to write when only the lanes in `mask` are accessed. -/
def mergeLanes (r : Register) (held mask lanes : UInt32) : UInt32 :=
  (r.fill held &&& ~~~mask) ||| (lanes &&& mask)

/-- A write changes writable bits only. -/
theorem store_and_not_writable (r : Register) (held written : UInt32) :
    r.store held written &&& ~~~r.writable = held &&& ~~~r.writable := by
  apply UInt32.eq_of_toBitVec_eq
  ext i
  simp only [store, UInt32.toBitVec_and, UInt32.toBitVec_or, UInt32.toBitVec_not,
    BitVec.getElem_and, BitVec.getElem_or, BitVec.getElem_not]
  cases r.writable.toBitVec[i] <;> simp

/-- The lanes outside an access keep what they hold. -/
theorem store_mergeLanes_outside (r : Register) (held mask lanes : UInt32) :
    r.store held (r.mergeLanes held mask lanes) &&& ~~~mask = held &&& ~~~mask := by
  have ones : ∀ i (h : i < 32), (4294967295#32)[i] = true := by decide
  apply UInt32.eq_of_toBitVec_eq
  ext i
  cases h : r.onWrite <;>
    simp [store, combine, mergeLanes, fill, h] <;>
    cases mask.toBitVec[i] <;> cases r.writable.toBitVec[i] <;> simp [ones i]

/-- The lanes of an access are written as a whole word would write them. -/
theorem store_mergeLanes_inside (r : Register) (held mask lanes : UInt32) :
    r.store held (r.mergeLanes held mask lanes) &&& mask = r.store held lanes &&& mask := by
  apply UInt32.eq_of_toBitVec_eq
  ext i
  cases h : r.onWrite <;>
    simp [store, combine, mergeLanes, fill, h] <;>
    cases mask.toBitVec[i] <;> simp

/-- The held word after a read has returned it. -/
def settle (r : Register) (held : UInt32) : UInt32 :=
  match r.onRead with
  | .keep => held
  | .clear mask => held &&& ~~~mask

end Register

abbrev Layout := List Register

namespace Layout

/-- The index of the register at `offset`. Of two registers at one offset the later one answers. -/
def indexOf? : Layout → UInt64 → Option Nat
  | [], _ => none
  | r :: rest, offset =>
    match indexOf? rest offset with
    | some i => some (i + 1)
    | none => if r.offset = offset then some 0 else none

/-- The first register called `name`, with its index. -/
def find? : Layout → String → Option (Nat × Register)
  | [], _ => none
  | r :: rest, name =>
    if r.name = name then some (0, r) else (find? rest name).map fun (i, r) => (i + 1, r)

/-- Apply `f` to the description of register `i`; without one the word stays as it is. -/
def onRegister (layout : Layout) (i : Nat) (f : Register → UInt32) (held : UInt32) : UInt32 :=
  match layout[i]? with
  | some r => f r
  | none => held

theorem indexOf?_lt {layout : Layout} {offset : UInt64} {i : Nat}
    (h : layout.indexOf? offset = some i) : i < layout.length := by
  induction layout generalizing i with
  | nil => simp [indexOf?] at h
  | cons r rest ih =>
    unfold indexOf? at h
    split at h
    · next j hj => cases h; have := ih hj; simp; omega
    · split at h
      · cases h; simp
      · cases h

theorem offset_of_indexOf? {layout : Layout} {offset : UInt64} {i : Nat}
    (h : layout.indexOf? offset = some i) : (layout[i]?).map Register.offset = some offset := by
  induction layout generalizing i with
  | nil => simp [indexOf?] at h
  | cons r rest ih =>
    unfold indexOf? at h
    split at h
    · next j hj => cases h; simpa using ih hj
    · split at h
      · next hr => cases h; simp [hr]
      · cases h

theorem getElem?_of_find? {layout : Layout} {name : String} {i : Nat} {r : Register}
    (h : layout.find? name = some (i, r)) : layout[i]? = some r ∧ r.name = name := by
  induction layout generalizing i with
  | nil => simp [find?] at h
  | cons r' rest ih =>
    unfold find? at h
    split at h
    · next hn => cases h; exact ⟨rfl, hn⟩
    · obtain ⟨⟨j, q⟩, hj, he⟩ := Option.map_eq_some_iff.1 h
      cases he
      simpa using ih hj

end Layout

structure RegisterFile (layout : Layout) where
  words : Vector UInt32 layout.length

namespace RegisterFile

variable {layout : Layout}

def reset (layout : Layout) : RegisterFile layout :=
  ⟨⟨(layout.map Register.reset).toArray, by simp⟩⟩

def get (file : RegisterFile layout) (i : Nat) : UInt32 :=
  (file.words[i]?).getD 0

def set (file : RegisterFile layout) (i : Nat) (word : UInt32) : RegisterFile layout :=
  ⟨file.words.setIfInBounds i word⟩

def store (file : RegisterFile layout) (i : Nat) (written : UInt32) : RegisterFile layout :=
  file.set i (layout.onRegister i (·.store (file.get i) written) (file.get i))

def setBits (file : RegisterFile layout) (i : Nat) (mask : UInt32) : RegisterFile layout :=
  file.set i (file.get i ||| mask)

def clearBits (file : RegisterFile layout) (i : Nat) (mask : UInt32) : RegisterFile layout :=
  file.set i (file.get i &&& ~~~mask)

def restart (file : RegisterFile layout) (i : Nat) : RegisterFile layout :=
  file.set i (layout.onRegister i (·.reset) (file.get i))

theorem get_set (file : RegisterFile layout) {i : Nat} (h : i < layout.length) (word : UInt32) :
    (file.set i word).get i = word := by
  simp [get, set, h]

theorem get_set_ne (file : RegisterFile layout) {i j : Nat} (h : i ≠ j) (word : UInt32) :
    (file.set i word).get j = file.get j := by
  simp [get, set, Vector.getElem?_setIfInBounds_ne h]

theorem get_reset {i : Nat} (h : i < layout.length) : (reset layout).get i = layout[i].reset := by
  simp [get, reset, h]

theorem get_store (file : RegisterFile layout) {i : Nat} (h : i < layout.length)
    (written : UInt32) : (file.store i written).get i = layout[i].store (file.get i) written := by
  simp [store, get_set _ h, Layout.onRegister, h]

theorem get_setBits (file : RegisterFile layout) {i : Nat} (h : i < layout.length)
    (mask : UInt32) : (file.setBits i mask).get i = file.get i ||| mask :=
  get_set _ h _

theorem get_clearBits (file : RegisterFile layout) {i : Nat} (h : i < layout.length)
    (mask : UInt32) : (file.clearBits i mask).get i = file.get i &&& ~~~mask :=
  get_set _ h _

theorem get_restart (file : RegisterFile layout) {i : Nat} (h : i < layout.length) :
    (file.restart i).get i = layout[i].reset := by
  simp [restart, get_set _ h, Layout.onRegister, h]

theorem ext_get {a b : RegisterFile layout} (h : ∀ i, i < layout.length → a.get i = b.get i) :
    a = b := by
  obtain ⟨a⟩ := a
  obtain ⟨b⟩ := b
  congr
  apply Vector.ext
  intro i hi
  simpa [get, hi] using h i hi

end RegisterFile

end BoardSim
