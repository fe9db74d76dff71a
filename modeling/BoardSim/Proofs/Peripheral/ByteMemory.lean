import BoardSim.Peripheral.Scratch
import BoardSim.Proofs.Peripheral.Access
import BoardSim.Proofs.Peripheral.Lanes
import Mathlib.Algebra.BigOperators.Group.Finset.Basic

/-!
# Registers as byte memory

A device without hooks of its own is a memory of bytes: `byteAt` is what each offset holds, a read
of any width and alignment is the little-endian sum of the bytes it covers, and a write changes
those bytes alone, each by the write action of the register it belongs to.
-/

namespace BoardSim

open Finset (range)

namespace Layout

/-- Every register in a word of its own, and none that a read changes. -/
structure Plain (layout : Layout) : Prop where
  distinct : (layout.map Register.offset).Nodup
  aligned : ∀ r ∈ layout, r.offset % 4 = 0
  kept : ∀ r ∈ layout, r.onRead = .keep

def registerAt? (layout : Layout) (x : UInt64) : Option (Nat × Register) := do
  let i ← layout.indexOf? (x - x % 4)
  return (i, ← layout[i]?)

theorem indexOf?_eq_none {layout : Layout} {offset : UInt64} :
    layout.indexOf? offset = none ↔ ∀ r ∈ layout, r.offset ≠ offset := by
  induction layout with
  | nil => simp [indexOf?]
  | cons r rest ih =>
    rw [List.forall_mem_cons, ← ih]
    cases found : indexOf? rest offset <;> simp [indexOf?, found]

theorem indexOf?_eq_some {layout : Layout} (distinct : (layout.map Register.offset).Nodup)
    {offset : UInt64} {i : Nat} :
    layout.indexOf? offset = some i ↔ (layout[i]?).map Register.offset = some offset := by
  constructor
  · exact offset_of_indexOf?
  · intro h
    obtain ⟨r, hr, ho⟩ := Option.map_eq_some_iff.1 h
    cases found : layout.indexOf? offset with
    | none => exact absurd ho (indexOf?_eq_none.1 found r (List.mem_of_getElem? hr))
    | some j =>
      have hj : j < (layout.map Register.offset).length := by simpa using indexOf?_lt found
      have same : (layout.map Register.offset)[j]? = (layout.map Register.offset)[i]? := by
        rw [List.getElem?_map, List.getElem?_map, offset_of_indexOf? found, h]
      rw [(List.getElem?_inj hj distinct).1 same]

theorem registerAt?_eq_some {layout : Layout} {x : UInt64} {i : Nat} {r : Register} :
    layout.registerAt? x = some (i, r) ↔
      layout.indexOf? (x - x % 4) = some i ∧ layout[i]? = some r := by
  constructor
  · intro h
    obtain ⟨j, hj, h⟩ := Option.bind_eq_some_iff.1 h
    obtain ⟨q, hq, h⟩ := Option.bind_eq_some_iff.1 h
    cases h
    exact ⟨hj, hq⟩
  · rintro ⟨found, hr⟩
    simp [registerAt?, found, hr]

theorem registerAt?_eq_none {layout : Layout} {x : UInt64} :
    layout.registerAt? x = none ↔ layout.indexOf? (x - x % 4) = none := by
  cases found : layout.indexOf? (x - x % 4) with
  | none => simp [registerAt?, found]
  | some i => simp [registerAt?, found, indexOf?_lt found]

end Layout

namespace Peripheral

/-- The hooks of a device that defines none, over words that hold what was put into them. -/
structure DefaultHooks (δ : Type) [Peripheral δ] : Prop where
  fetch_eq : ∀ (d : δ) i, fetch d i = (held d i, d)
  commit_eq : ∀ (d : δ) i word,
    commit d i word = put d i ((layout d).onRegister i (·.store (held d i) word) (held d i))
  layout_put : ∀ (d : δ) i word, layout (put d i word) = layout d
  held_put : ∀ (d : δ) {i} word, i < (layout d).length → held (put d i word) i = word
  held_put_ne : ∀ (d : δ) {i j} word, i ≠ j → held (put d i word) j = held d j

variable {δ : Type} [Peripheral δ]

theorem DefaultHooks.kept (hooks : DefaultHooks δ) {P : δ → Prop}
    (put : ∀ s i word, P s → P (put s i word)) : Kept P where
  fetch d i hd := by rw [hooks.fetch_eq]; exact hd
  settle d i hd := by
    unfold settle
    split
    · exact put _ _ _ hd
    · exact hd
  commit d i word hd := by rw [hooks.commit_eq]; exact put _ _ _ hd

def wordAt (d : δ) (x : UInt64) : UInt32 :=
  match (layout d).registerAt? x with
  | some (i, _) => held d i
  | none => 0

def byteAt (d : δ) (x : UInt64) : UInt8 := laneOf (wordAt d x) (x % 4).toNat

def overwrite (d : δ) (x : UInt64) (v : UInt8) : UInt8 :=
  match (layout d).registerAt? x with
  | some (_, r) => r.onWrite.byte (byteAt d x) v (laneOf r.writable (x % 4).toNat)
  | none => 0

theorem toNat_mod_four (x : UInt64) : (x % 4).toNat = x.toNat % 4 := by
  rw [UInt64.toNat_mod]
  rfl

theorem toNat_add_ofNat {x : UInt64} {k : Nat} (inRange : x.toNat + k < 2 ^ 64) :
    (x + UInt64.ofNat k).toNat = x.toNat + k := by
  have small : k < UInt64.size := by
    rw [UInt64.size]
    omega
  rw [UInt64.toNat_add, UInt64.toNat_ofNat_of_lt' small, Nat.mod_eq_of_lt inRange]

theorem byteAt_eq (d : δ) (x : UInt64) : byteAt d x = laneOf (wordAt d x) (x.toNat % 4) := by
  rw [byteAt, toNat_mod_four]

theorem overwrite_of_some {d : δ} {x : UInt64} {i : Nat} {r : Register}
    (found : (layout d).registerAt? x = some (i, r)) (v : UInt8) :
    overwrite d x v = r.onWrite.byte (byteAt d x) v (laneOf r.writable (x.toNat % 4)) := by
  rw [overwrite, found, toNat_mod_four]

theorem overwrite_congr {d d' : δ} {x : UInt64} (sameLayout : layout d' = layout d)
    (same : byteAt d' x = byteAt d x) (v : UInt8) : overwrite d' x v = overwrite d x v := by
  rw [overwrite, overwrite, sameLayout, same]

theorem wordOffset_eq_sub (x : UInt64) : wordOffset x = x - x % 4 := by
  have := toNat_mod_four x
  apply UInt64.toNat_inj.1
  rw [toNat_wordOffset, UInt64.toNat_sub_of_le _ _ (UInt64.le_iff_toNat_le.2 (by omega)), this]
  omega

theorem wordOffset_eq_iff (x y : UInt64) :
    wordOffset x = wordOffset y ↔ x.toNat / 4 = y.toNat / 4 := by
  rw [← UInt64.toNat_inj, toNat_wordOffset, toNat_wordOffset]
  omega

theorem registerAt?_congr (layout : Layout) {x y : UInt64} (same : x.toNat / 4 = y.toNat / 4) :
    layout.registerAt? x = layout.registerAt? y := by
  rw [Layout.registerAt?, Layout.registerAt?, ← wordOffset_eq_sub, ← wordOffset_eq_sub,
    (wordOffset_eq_iff x y).2 same]

theorem wordAt_congr (d : δ) {x y : UInt64} (same : x.toNat / 4 = y.toNat / 4) :
    wordAt d x = wordAt d y := by
  rw [wordAt, wordAt, registerAt?_congr _ same]

-- ---------------------------------------------------------------------------
-- Reads
-- ---------------------------------------------------------------------------

structure Reads (d : δ) (offset : UInt64) (n : Nat) (answer : UInt64 × δ) : Prop where
  state : answer.2 = d
  byte : ∀ k < 8,
    payloadByte answer.1 k = if k < n then byteAt d (offset + UInt64.ofNat k) else 0

theorem Reads.join {d d₁ d₂ : δ} {offset low high : UInt64} {n m : Nat} (hn : n < 8)
    (first : Reads d offset n (low, d₁))
    (second : Reads d (offset + UInt64.ofNat n) m (high, d₂)) :
    Reads d offset (n + m) (low ||| (high <<< UInt64.ofNat (n * 8)), d₂) where
  state := second.state
  byte k hk := by
    have narrow : ∀ k < 8, n ≤ k → payloadByte low k = 0 := by
      intro k hk above
      rw [first.byte k hk, if_neg (by omega)]
    rw [payloadByte_join hn hk narrow]
    by_cases h : k < n
    · rw [if_pos h, if_pos (by omega), first.byte k hk, if_pos h]
    · have next : offset + UInt64.ofNat n + UInt64.ofNat (k - n) = offset + UInt64.ofNat k := by
        rw [UInt64.add_assoc, ← UInt64.ofNat_add, Nat.add_sub_cancel' (by omega)]
      rw [if_neg h, second.byte (k - n) (by omega), next]
      congr 1
      apply propext
      omega

variable {d : δ}

theorem read_wordOffset (hooks : DefaultHooks δ) (kept : ∀ r ∈ layout d, r.onRead = .keep)
    (offset : UInt64) : read d (wordOffset offset) = (wordAt d offset, d) := by
  rw [read, wordAt, Layout.registerAt?, wordOffset_eq_sub]
  cases found : (layout d).indexOf? (offset - offset % 4) with
  | none => rfl
  | some i =>
    have := Layout.indexOf?_lt found
    simp [hooks.fetch_eq, settle_of_keep kept, this]

theorem reads_loadWord (hooks : DefaultHooks δ) (kept : ∀ r ∈ layout d, r.onRead = .keep)
    (offset : UInt64) {n : Nat} (hn : 0 < n) (fits : offset.toNat % 4 + n ≤ 4) :
    Reads d offset n (loadWord d offset n) where
  state := by rw [loadWord, read_wordOffset hooks kept]
  byte k hk := by
    rw [loadWord, read_wordOffset hooks kept]
    dsimp only
    rw [payloadByte_covered _ _ hn fits hk]
    by_cases h : k < n
    · have offset_lt := offset.toNat_lt
      have position : (offset + UInt64.ofNat k).toNat = offset.toNat + k :=
        toNat_add_ofNat (by omega)
      rw [if_pos h, if_pos h, byteAt_eq,
        wordAt_congr d (show (offset + UInt64.ofNat k).toNat / 4 = offset.toNat / 4 by omega),
        position, show (offset.toNat + k) % 4 = offset.toNat % 4 + k by omega]
    · rw [if_neg h, if_neg h]

theorem reads_loadBytes (hooks : DefaultHooks δ) (kept : ∀ r ∈ layout d, r.onRead = .keep)
    (offset : UInt64) {n : Nat} (hn : n ≤ 8) : Reads d offset n (loadBytes d offset n) := by
  induction n with
  | zero => exact ⟨rfl, fun k _ => by simp [loadBytes, payloadByte]⟩
  | succ n ih =>
    have low := ih (by omega)
    have lane := reads_loadWord hooks kept (offset + UInt64.ofNat n) Nat.one_pos (by omega)
    rw [loadBytes]
    simp only [low.state]
    exact low.join (by omega) lane

theorem reads_load (hooks : DefaultHooks δ) (kept : ∀ r ∈ layout d, r.onRead = .keep)
    (offset : UInt64) (size : AccessSize) : Reads d offset size.bytes (load d offset size) := by
  have lane := toNat_mod_four offset
  unfold load
  split
  · next h =>
    obtain ⟨rfl, aligned⟩ := h
    have := congrArg UInt64.toNat aligned
    have low := reads_loadWord hooks kept offset (n := 4) (by decide) (by simp_all)
    have high := reads_loadWord hooks kept (offset + 4) (n := 4) (by decide) (by simp_all)
    simp only [low.state]
    exact low.join (by decide) high
  · split
    · exact reads_loadWord hooks kept offset size.bytes_pos (by omega)
    · exact reads_loadBytes hooks kept offset (by cases size <;> decide)

-- ---------------------------------------------------------------------------
-- Writes
-- ---------------------------------------------------------------------------

structure Writes (d d' : δ) (offset : UInt64) (n : Nat) (payload : UInt64) : Prop where
  layout : layout d' = layout d
  byte : ∀ x, byteAt d' x =
    if offset.toNat ≤ x.toNat ∧ x.toNat < offset.toNat + n then
      overwrite d x (payloadByte payload (x.toNat - offset.toNat))
    else byteAt d x

theorem Writes.join {d d₁ d₂ : δ} {offset next low high payload : UInt64} {n m : Nat}
    (first : Writes d d₁ offset n low) (second : Writes d₁ d₂ next m high)
    (adjacent : next.toNat = offset.toNat + n)
    (sameLow : ∀ k < n, payloadByte low k = payloadByte payload k)
    (sameHigh : ∀ k < m, payloadByte high k = payloadByte payload (n + k)) :
    Writes d d₂ offset (n + m) payload where
  layout := second.layout.trans first.layout
  byte x := by
    -- what lies below the second range is as the first write left it
    rw [second.byte x]
    by_cases above : offset.toNat + n ≤ x.toNat
    · have untouched : byteAt d₁ x = byteAt d x := by rw [first.byte x, if_neg (by omega)]
      by_cases inside : x.toNat < offset.toNat + n + m
      · have position : n + (x.toNat - next.toNat) = x.toNat - offset.toNat := by omega
        rw [if_pos (by omega), if_pos (by omega), overwrite_congr first.layout untouched,
          sameHigh _ (by omega), position]
      · rw [if_neg (by omega), if_neg (by omega), untouched]
    · rw [if_neg (by omega), first.byte x]
      by_cases inside : offset.toNat ≤ x.toNat
      · rw [if_pos (by omega), if_pos (by omega), sameLow _ (by omega)]
      · rw [if_neg (by omega), if_neg (by omega)]

theorem storeWord_eq (hooks : DefaultHooks δ) (offset : UInt64) (n : Nat) (payload : UInt64) :
    storeWord d offset n payload =
      match (layout d).registerAt? offset with
      | some (i, r) => put d i (r.store (held d i)
          (r.mergeLanes (held d i) (laneMask offset n) (payload.toUInt32 <<< laneShift offset)))
      | none => d := by
  rw [storeWord, Layout.registerAt?, wordOffset_eq_sub]
  cases found : (layout d).indexOf? (offset - offset % 4) with
  | none => simp [write, found]
  | some i =>
    have := Layout.indexOf?_lt found
    by_cases full : laneMask offset n = 0xFFFFFFFF
    · simp [write, found, full, hooks.commit_eq, Layout.onRegister, this,
        Register.mergeLanes_all]
    · simp [write, found, full, hooks.commit_eq, Layout.onRegister, this]

theorem wordAt_put (hooks : DefaultHooks δ) {x : UInt64} {i : Nat} {r : Register}
    (found : (layout d).registerAt? x = some (i, r)) (word : UInt32) :
    wordAt (put d i word) x = word := by
  have hi := Layout.indexOf?_lt (Layout.registerAt?_eq_some.1 found).1
  rw [wordAt, hooks.layout_put, found]
  exact hooks.held_put d word hi

theorem wordAt_put_ne (hooks : DefaultHooks δ) {x y : UInt64} {i : Nat} {r : Register}
    (found : (layout d).registerAt? x = some (i, r)) (apart : x.toNat / 4 ≠ y.toNat / 4)
    (word : UInt32) : wordAt (put d i word) y = wordAt d y := by
  rw [wordAt, wordAt, hooks.layout_put]
  cases other : (layout d).registerAt? y with
  | none => rfl
  | some p =>
    obtain ⟨j, q⟩ := p
    have distinct : i ≠ j := by
      rintro rfl
      have hx := Layout.offset_of_indexOf? (Layout.registerAt?_eq_some.1 found).1
      have hy := Layout.offset_of_indexOf? (Layout.registerAt?_eq_some.1 other).1
      rw [hx, ← wordOffset_eq_sub, ← wordOffset_eq_sub] at hy
      exact apart ((wordOffset_eq_iff x y).1 (Option.some.inj hy))
    exact hooks.held_put_ne d word distinct

theorem writes_storeWord (hooks : DefaultHooks δ) (offset : UInt64) {n : Nat} (hn : 0 < n)
    (fits : offset.toNat % 4 + n ≤ 4) (payload : UInt64) :
    Writes d (storeWord d offset n payload) offset n payload := by
  rw [storeWord_eq hooks]
  cases found : (layout d).registerAt? offset with
  | none =>
    -- nothing is stored, and the bytes of the missing register are 0 before and after
    refine ⟨rfl, fun x => ?_⟩
    by_cases inside : offset.toNat ≤ x.toNat ∧ x.toNat < offset.toNat + n
    · have here := registerAt?_congr (layout d) (show x.toNat / 4 = offset.toNat / 4 by omega)
      rw [if_pos inside, overwrite, byteAt, wordAt, here, found]
      simp [laneOf]
    · rw [if_neg inside]
  | some p =>
    obtain ⟨i, r⟩ := p
    refine ⟨hooks.layout_put _ _ _, fun x => ?_⟩
    -- in the accessed word the lane mask decides, every other word belongs to another register
    by_cases same : x.toNat / 4 = offset.toNat / 4
    · have here := (registerAt?_congr (layout d) same).trans found
      rw [byteAt_eq, wordAt_put hooks here, laneOf_store_mergeLanes _ _ _ _ hn fits (by omega)]
      by_cases inside : offset.toNat ≤ x.toNat ∧ x.toNat < offset.toNat + n
      · rw [if_pos (by omega), if_pos inside, overwrite_of_some here, byteAt_eq, wordAt, here,
          show x.toNat % 4 - offset.toNat % 4 = x.toNat - offset.toNat by omega]
      · rw [if_neg (by omega), if_neg inside, byteAt_eq, wordAt, here]
    · rw [if_neg (by omega), byteAt_eq, byteAt_eq, wordAt_put_ne hooks found (Ne.symm same)]

theorem writes_storeBytes (hooks : DefaultHooks δ) {offset : UInt64} (payload : UInt64) {n : Nat}
    (hn : n ≤ 8) (inRange : offset.toNat + n ≤ 2 ^ 64) :
    Writes d (storeBytes d offset payload n) offset n payload := by
  induction n with
  | zero => exact ⟨rfl, fun x => by rw [if_neg (by omega)]; rfl⟩
  | succ n ih =>
    have next : (offset + UInt64.ofNat n).toNat = offset.toNat + n := toNat_add_ofNat (by omega)
    refine (ih (by omega) (by omega)).join
      (writes_storeWord hooks (offset + UInt64.ofNat n) Nat.one_pos (by omega) _) next
      (fun _ _ => rfl) (fun k hk => ?_)
    obtain rfl : k = 0 := by omega
    rw [payloadByte_lowest, payloadByte_shiftRight _ (by omega)]

theorem writes_store (hooks : DefaultHooks δ) {offset : UInt64} {size : AccessSize}
    (payload : UInt64) (inRange : offset.toNat + size.bytes ≤ 2 ^ 64) :
    Writes d (store d offset size payload) offset size.bytes payload := by
  have lane := toNat_mod_four offset
  unfold store
  split
  · next h =>
    obtain ⟨rfl, aligned⟩ := h
    have := congrArg UInt64.toNat aligned
    have room : offset.toNat + 8 ≤ 2 ^ 64 := inRange
    have next : (offset + 4).toNat = offset.toNat + 4 := toNat_add_ofNat (k := 4) (by omega)
    refine (writes_storeWord hooks offset (n := 4) (by decide) (by simp_all) _).join
      (writes_storeWord hooks (offset + 4) (n := 4) (by decide) (by simp_all) _) next
      (fun k hk => payloadByte_and_low payload hk)
      (fun k hk => payloadByte_shiftRight payload (i := 4) (by omega))
  · split
    · exact writes_storeWord hooks offset size.bytes_pos (by omega) payload
    · exact writes_storeBytes hooks payload (by cases size <;> decide) inRange

-- ---------------------------------------------------------------------------
-- Payload bits that a write does not use
-- ---------------------------------------------------------------------------

theorem storeWord_congr (d : δ) (offset : UInt64) {n : Nat} (hn : 0 < n)
    (fits : offset.toNat % 4 + n ≤ 4) {v w : UInt64}
    (same : ∀ k < n, payloadByte v k = payloadByte w k) :
    storeWord d offset n v = storeWord d offset n w := by
  have covered := lanes_and_laneMask_congr offset hn fits same
  by_cases full : laneMask offset n = 0xFFFFFFFF
  · have all (word : UInt32) : word &&& 0xFFFFFFFF = word := UInt32.and_neg_one
    rw [full, all, all] at covered
    simp only [storeWord, full, if_true, covered]
  · simp only [storeWord, Register.mergeLanes, full, if_false, covered]

theorem storeBytes_congr (d : δ) (offset : UInt64) {n : Nat} (hn : n ≤ 8) {v w : UInt64}
    (same : ∀ k < n, payloadByte v k = payloadByte w k) :
    storeBytes d offset v n = storeBytes d offset w n := by
  induction n with
  | zero => rfl
  | succ n ih =>
    rw [storeBytes, storeBytes, ih (by omega) fun k hk => same k (by omega)]
    refine storeWord_congr _ _ Nat.one_pos (by omega) fun k hk => ?_
    obtain rfl : k = 0 := by omega
    rw [payloadByte_lowest, payloadByte_lowest, payloadByte_shiftRight _ (by omega),
      payloadByte_shiftRight _ (by omega), Nat.add_zero, same n (by omega)]

theorem store_congr (d : δ) (offset : UInt64) (size : AccessSize) {v w : UInt64}
    (same : ∀ k < size.bytes, payloadByte v k = payloadByte w k) :
    store d offset size v = store d offset size w := by
  have lane := toNat_mod_four offset
  unfold store
  split
  · next h =>
    obtain ⟨rfl, -⟩ := h
    -- here every payload byte is used, so the payloads are the same
    have whole : v = w := by
      apply UInt64.toNat_inj.1
      rw [toNat_eq_sum_payloadByte v le_rfl (by omega),
        toNat_eq_sum_payloadByte w le_rfl (by omega)]
      exact Finset.sum_congr rfl fun i hi => by rw [same i (Finset.mem_range.1 hi)]
    rw [whole]
  · split
    · exact storeWord_congr d offset size.bytes_pos (by omega) same
    · exact storeBytes_congr d offset (by cases size <;> decide) same

-- ---------------------------------------------------------------------------
-- The byte memory
-- ---------------------------------------------------------------------------

structure ByteAccess (d : δ) (offset : UInt64) (size : AccessSize) (payload : UInt64) : Prop where
  registers : ∀ s : δ, layout s = layout d → ∀ i r, (layout d)[i]? = some r →
    ∀ k < 4, byteAt s (r.offset + UInt64.ofNat k) = laneOf (held s i) k
  gaps : ∀ s : δ, layout s = layout d → ∀ x, (∀ r ∈ layout d, r.offset ≠ x - x % 4) →
    byteAt s x = 0
  readAnswer : (access d offset size .read payload).1.toNat =
    ∑ i ∈ range size.bytes, (byteAt d (offset + UInt64.ofNat i)).toNat * 256 ^ i
  readState : (access d offset size .read payload).2 = d
  writeAnswer : (access d offset size .write payload).1 = 0
  writeLayout : layout (access d offset size .write payload).2 = layout d
  writeByte : ∀ x, byteAt (access d offset size .write payload).2 x =
    if offset.toNat ≤ x.toNat ∧ x.toNat < offset.toNat + size.bytes then
      overwrite d x (payloadByte payload (x.toNat - offset.toNat))
    else byteAt d x
  writeState : ∀ P : δ → Prop, (∀ s i word, P s → P (put s i word)) → P d →
    P (access d offset size .write payload).2
  unused : ∀ other : UInt64,
    other.toNat % 256 ^ size.bytes = payload.toNat % 256 ^ size.bytes →
    access d offset size .write other = access d offset size .write payload

theorem byteAt_register {d s : δ} (plain : (layout d).Plain) (sameLayout : layout s = layout d)
    {i : Nat} {r : Register} (hr : (layout d)[i]? = some r) {k : Nat} (hk : k < 4) :
    byteAt s (r.offset + UInt64.ofNat k) = laneOf (held s i) k := by
  have aligned : r.offset.toNat % 4 = 0 := by
    rw [← toNat_mod_four, plain.aligned r (List.mem_of_getElem? hr)]
    rfl
  have small := r.offset.toNat_lt
  have position : (r.offset + UInt64.ofNat k).toNat = r.offset.toNat + k :=
    toNat_add_ofNat (by omega)
  have word : r.offset + UInt64.ofNat k - (r.offset + UInt64.ofNat k) % 4 = r.offset := by
    rw [← wordOffset_eq_sub]
    apply UInt64.toNat_inj.1
    rw [toNat_wordOffset, position]
    omega
  have found : (layout s).registerAt? (r.offset + UInt64.ofNat k) = some (i, r) := by
    rw [sameLayout, Layout.registerAt?_eq_some, Layout.indexOf?_eq_some plain.distinct, word, hr]
    exact ⟨rfl, rfl⟩
  rw [byteAt_eq, wordAt, found, position]
  congr 1
  omega

theorem access_byteAccess (hooks : DefaultHooks δ) (d : δ) (plain : (layout d).Plain)
    (offset : UInt64) (size : AccessSize) (payload : UInt64)
    (inRange : offset.toNat + size.bytes ≤ 2 ^ 64) : ByteAccess d offset size payload where
  registers s sameLayout i r hr k hk := byteAt_register plain sameLayout hr hk
  gaps s sameLayout x missing := by
    rw [byteAt, wordAt, sameLayout,
      Layout.registerAt?_eq_none.2 (Layout.indexOf?_eq_none.2 missing)]
    simp [laneOf]
  readAnswer := by
    have reads := reads_load hooks plain.kept offset size
    have short : size.bytes ≤ 8 := by cases size <;> decide
    rw [access, toNat_eq_sum_payloadByte _ short fun k hk above => by
      rw [reads.byte k hk, if_neg (by omega)]]
    refine Finset.sum_congr rfl fun i hi => ?_
    have hi := Finset.mem_range.1 hi
    rw [reads.byte i (by omega), if_pos hi]
  readState := (reads_load hooks plain.kept offset size).state
  writeAnswer := rfl
  writeLayout := (writes_store hooks payload inRange).layout
  writeByte := (writes_store hooks payload inRange).byte
  writeState P kept hd := (hooks.kept kept).access hd offset size .write payload
  unused other same := by
    have short : size.bytes ≤ 8 := by cases size <;> decide
    rw [access, access, store_congr d offset size fun k hk => payloadByte_congr short same hk]

theorem scratch_defaultHooks : DefaultHooks Scratch where
  fetch_eq _ _ := rfl
  commit_eq _ _ _ := rfl
  layout_put _ _ _ := rfl
  held_put s _ word hi := s.regs.get_set hi word
  held_put_ne s _ _ word distinct := s.regs.get_set_ne distinct word

/-- A data register, a gap, and flags of both kinds. -/
def flagBank : Scratch where
  layout := [{ name := "DATA", offset := 0, reset := 0x11223344 },
    { name := "SR", offset := 8, reset := 0xFFFFFFFF, writable := 0x00FF0F0F,
      onWrite := .clearOnes },
    { name := "SET", offset := 12, reset := 0xFFFFFFFF, onWrite := .clearZeros }]

/-- Eight bytes from the third byte of `DATA` to the second of `SR`. -/
theorem access_byteAccess_flagBank :
    (layout flagBank).Plain ∧ (2 : UInt64).toNat + AccessSize.double.bytes ≤ 2 ^ 64 ∧
      ((access flagBank 2 .double .write 0xFFFF00000000AABB).2.regs.get 0,
        (access flagBank 2 .double .write 0xFFFF00000000AABB).2.regs.get 1) =
        (0xAABB3344, 0xFFFFF0F0) ∧
      ByteAccess flagBank 2 .double 0xFFFF00000000AABB :=
  have plain : (layout flagBank).Plain := ⟨by decide, by decide, by decide⟩
  ⟨plain, by decide, by decide +kernel,
    access_byteAccess scratch_defaultHooks flagBank plain 2 .double _ (by decide)⟩

end Peripheral

end BoardSim
