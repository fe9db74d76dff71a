/-!
# CAN frames and message buffer words

A classic CAN frame as it appears on the wire, and how its parts are laid out in the words of a
message buffer: the code and length word, the identifier word and two big-endian data words.
-/

namespace BoardSim.Can

structure Frame where
  id : UInt32
  extended : Bool
  remote : Bool
  dlc : UInt8
  data : Vector UInt8 8
deriving DecidableEq

def standardIdMask : UInt32 := 0x7FF

def extendedIdMask : UInt32 := 0x1FFFFFFF

/-- Eight data bytes: the first of `payload`, then zeros. -/
def padData (payload : List UInt8) : Vector UInt8 8 :=
  Vector.ofFn fun i => (payload[i.val]?).getD 0

namespace Frame

/-- A data frame that carries the first eight bytes of `payload`. -/
def withPayload (id : UInt32) (extended : Bool) (payload : List UInt8) : Frame where
  id := id
  extended := extended
  remote := false
  dlc := UInt8.ofNat (min payload.length 8)
  data := padData payload

/-- A data frame with an 11-bit identifier. Bytes beyond the eighth are cut off. -/
def standard (id : UInt32) (payload : List UInt8) : Frame :=
  withPayload (id &&& standardIdMask) false payload

def extendedData (id : UInt32) (payload : List UInt8) : Frame :=
  withPayload (id &&& extendedIdMask) true payload

def remoteRequest (id : UInt32) (dlc : UInt8) : Frame where
  id := id &&& standardIdMask
  extended := false
  remote := true
  dlc := min dlc 8
  data := .replicate 8 0

def payload (f : Frame) : List UInt8 := f.data.toList.take (min f.dlc.toNat 8)

end Frame

-- ---------------------------------------------------------------------------
-- Message buffer words
-- ---------------------------------------------------------------------------

/-! Buffer codes, bits 27 to 24 of the CS word. -/

namespace Code

def rxInactive : UInt32 := 0x0
def rxFull : UInt32 := 0x2
def rxEmpty : UInt32 := 0x4
def rxOverrun : UInt32 := 0x6
def txInactive : UInt32 := 0x8
def txRemote : UInt32 := 0xA
def txData : UInt32 := 0xC

def receives (code : UInt32) : Bool := code == rxEmpty || code == rxFull || code == rxOverrun

def armed (code : UInt32) : Bool := code == txData || code == txRemote

end Code

namespace Word

def srr : UInt32 := 0x400000
def ide : UInt32 := 0x200000
def rtr : UInt32 := 0x100000
def dlcMask : UInt32 := 0xF0000

/-- A CS word with the given code and length. -/
def cs (code : UInt32) (dlc : UInt8) : UInt32 :=
  ((code &&& 0xF) <<< (24 : UInt32)) ||| ((dlc &&& 0xF).toUInt32 <<< (16 : UInt32))

def codeOf (cs : UInt32) : UInt32 := (cs >>> 24) &&& 0xF

def dlcOf (cs : UInt32) : UInt8 := ((cs >>> 16) &&& 0xF).toUInt8

/-- A standard identifier as it lies in the ID word and in the masks. -/
def standardId (id : UInt32) : UInt32 := (id &&& standardIdMask) <<< 18

def id (f : Frame) : UInt32 :=
  if f.extended then f.id &&& extendedIdMask else standardId f.id

def ofBytes (a b c d : UInt8) : UInt32 :=
  (a.toUInt32 <<< (24 : UInt32)) ||| (b.toUInt32 <<< (16 : UInt32)) |||
    (c.toUInt32 <<< (8 : UInt32)) ||| d.toUInt32

def data (bytes : Vector UInt8 8) : UInt32 × UInt32 :=
  (ofBytes bytes[0] bytes[1] bytes[2] bytes[3], ofBytes bytes[4] bytes[5] bytes[6] bytes[7])

def bytes (high low : UInt32) : Vector UInt8 8 :=
  #v[(high >>> 24).toUInt8, (high >>> 16).toUInt8, (high >>> 8).toUInt8, high.toUInt8,
    (low >>> 24).toUInt8, (low >>> 16).toUInt8, (low >>> 8).toUInt8, low.toUInt8]

/-! The words carry what was put into them. -/

theorem byte_ext {a b : UInt8}
    (h : ∀ i ∈ [0, 1, 2, 3, 4, 5, 6, 7], a.toBitVec.getLsbD i = b.toBitVec.getLsbD i) : a = b := by
  refine UInt8.eq_of_toBitVec_eq (BitVec.eq_of_getLsbD_eq fun i hi => h i ?_)
  simp
  omega

theorem codeOf_cs (code : UInt32) (dlc : UInt8) : codeOf (cs code dlc) = code &&& 0xF := by
  have nibble : ∀ i (h : i < 32), (15#32)[i] = decide (i < 4) := by decide
  apply UInt32.eq_of_toBitVec_eq
  ext i hi
  by_cases h : i < 4
  · have : i = 0 ∨ i = 1 ∨ i = 2 ∨ i = 3 := by omega
    rcases this with rfl | rfl | rfl | rfl <;> simp [codeOf, cs]
  · simp [codeOf, cs, nibble i hi, h]

theorem dlcOf_cs (code : UInt32) (dlc : UInt8) : dlcOf (cs code dlc) = dlc &&& 0xF := by
  apply byte_ext
  simp [dlcOf, cs]

theorem first_ofBytes (a b c d : UInt8) : (ofBytes a b c d >>> 24).toUInt8 = a := by
  apply byte_ext
  simp [ofBytes, BitVec.getLsbD_of_ge]

theorem second_ofBytes (a b c d : UInt8) : (ofBytes a b c d >>> 16).toUInt8 = b := by
  apply byte_ext
  simp [ofBytes, BitVec.getLsbD_of_ge]

theorem third_ofBytes (a b c d : UInt8) : (ofBytes a b c d >>> 8).toUInt8 = c := by
  apply byte_ext
  simp [ofBytes, BitVec.getLsbD_of_ge]

theorem fourth_ofBytes (a b c d : UInt8) : (ofBytes a b c d).toUInt8 = d := by
  apply byte_ext
  simp [ofBytes]

theorem bytes_data (v : Vector UInt8 8) : bytes (data v).1 (data v).2 = v := by
  apply Vector.ext
  intro i hi
  match i, hi with
  | 0, _ | 1, _ | 2, _ | 3, _ | 4, _ | 5, _ | 6, _ | 7, _ =>
    simp [bytes, data, first_ofBytes, second_ofBytes, third_ofBytes, fourth_ofBytes]

end Word

end BoardSim.Can
