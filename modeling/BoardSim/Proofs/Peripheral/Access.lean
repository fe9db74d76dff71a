import BoardSim.Peripheral

/-!
# Accesses from register operations

An access is made of fetches, read actions and commits. What each of these keeps, every access
keeps (`Kept.access`), and a map that commutes with each of them commutes with every access
(`Hom.access`), so nothing about widths and alignments has to be looked at again.
-/

namespace BoardSim.Peripheral

variable {δ ε : Type} [Peripheral δ] [Peripheral ε]

theorem settle_of_keep {d : δ} (keep : ∀ r ∈ layout d, r.onRead = .keep) (i : Nat) :
    settle d i = d := by
  unfold settle
  split
  · next mask clears =>
    obtain ⟨r, hr, action⟩ := Option.map_eq_some_iff.1 clears
    rw [keep r (List.mem_of_getElem? hr)] at action
    cases action
  · rfl

/-- Where no register read changes the device, no load does. -/
theorem snd_load (still : ∀ (d : δ) offset, (read d offset).2 = d) (d : δ) (offset : UInt64)
    (size : AccessSize) : (load d offset size).2 = d := by
  have word (d : δ) (offset : UInt64) (bytes : Nat) : (loadWord d offset bytes).2 = d :=
    still d (wordOffset offset)
  have bytes (n : Nat) : (loadBytes d offset n).2 = d := by
    induction n with
    | zero => rfl
    | succ n ih => exact (word _ _ 1).trans ih
  unfold load
  split
  · exact (word _ _ 4).trans (word d offset 4)
  · split
    · exact word _ _ _
    · exact bytes _

-- ---------------------------------------------------------------------------
-- Invariants
-- ---------------------------------------------------------------------------

structure Kept (P : δ → Prop) : Prop where
  fetch : ∀ d i, P d → P (fetch d i).2
  settle : ∀ d i, P d → P (settle d i)
  commit : ∀ d i word, P d → P (commit d i word)

namespace Kept

variable {P : δ → Prop} {d : δ}

theorem read (h : Kept P) (hd : P d) (offset : UInt64) : P (read d offset).2 := by
  unfold Peripheral.read
  split
  · exact hd
  · exact h.settle _ _ (h.fetch _ _ hd)

theorem write (h : Kept P) (hd : P d) (offset : UInt64) (word : UInt32) :
    P (write d offset word) := by
  unfold Peripheral.write
  split
  · exact hd
  · exact h.commit _ _ _ hd

theorem loadWord (h : Kept P) (hd : P d) (offset : UInt64) (bytes : Nat) :
    P (loadWord d offset bytes).2 := h.read hd _

theorem storeWord (h : Kept P) (hd : P d) (offset : UInt64) (bytes : Nat) (payload : UInt64) :
    P (storeWord d offset bytes payload) := by
  simp only [Peripheral.storeWord]
  split
  · exact h.write hd _ _
  · split
    · exact hd
    · exact h.write hd _ _

theorem loadBytes (h : Kept P) (hd : P d) (offset : UInt64) (n : Nat) :
    P (loadBytes d offset n).2 := by
  induction n with
  | zero => exact hd
  | succ n ih => exact h.loadWord ih (offset + UInt64.ofNat n) 1

theorem storeBytes (h : Kept P) (hd : P d) (offset payload : UInt64) (n : Nat) :
    P (storeBytes d offset payload n) := by
  induction n with
  | zero => exact hd
  | succ n ih => exact h.storeWord ih _ _ _

theorem load (h : Kept P) (hd : P d) (offset : UInt64) (size : AccessSize) :
    P (load d offset size).2 := by
  unfold Peripheral.load
  split
  · exact h.loadWord (h.loadWord hd offset 4) (offset + 4) 4
  · split
    · exact h.loadWord hd _ _
    · exact h.loadBytes hd _ _

theorem store (h : Kept P) (hd : P d) (offset : UInt64) (size : AccessSize) (payload : UInt64) :
    P (store d offset size payload) := by
  unfold Peripheral.store
  split
  · exact h.storeWord (h.storeWord hd _ _ _) _ _ _
  · split
    · exact h.storeWord hd _ _ _
    · exact h.storeBytes hd _ _ _

theorem access (h : Kept P) (hd : P d) (offset : UInt64) (size : AccessSize)
    (direction : Direction) (payload : UInt64) : P (access d offset size direction payload).2 := by
  cases direction with
  | read => exact h.load hd _ _
  | write => exact h.store hd _ _ _

end Kept

-- ---------------------------------------------------------------------------
-- Maps between devices
-- ---------------------------------------------------------------------------

/-- `φ` commutes with the register operations. -/
structure Hom (φ : δ → ε) : Prop where
  layout : ∀ d, layout (φ d) = layout d
  held : ∀ d i, held (φ d) i = held d i
  put : ∀ d i word, put (φ d) i word = φ (put d i word)
  fetch : ∀ d i, fetch (φ d) i = ((fetch d i).1, φ (fetch d i).2)
  commit : ∀ d i word, commit (φ d) i word = φ (commit d i word)

namespace Hom

variable {φ : δ → ε}

theorem settle (h : Hom φ) (d : δ) (i : Nat) : settle (φ d) i = φ (settle d i) := by
  unfold Peripheral.settle
  rw [h.layout]
  split
  · rw [h.held, h.put]
  · rfl

theorem read (h : Hom φ) (d : δ) (offset : UInt64) :
    read (φ d) offset = ((read d offset).1, φ (read d offset).2) := by
  unfold Peripheral.read
  rw [h.layout]
  split
  · rfl
  · simp only [h.fetch, h.settle]

theorem write (h : Hom φ) (d : δ) (offset : UInt64) (word : UInt32) :
    write (φ d) offset word = φ (write d offset word) := by
  unfold Peripheral.write
  rw [h.layout]
  split
  · rfl
  · exact h.commit _ _ _

theorem loadWord (h : Hom φ) (d : δ) (offset : UInt64) (bytes : Nat) :
    loadWord (φ d) offset bytes = ((loadWord d offset bytes).1, φ (loadWord d offset bytes).2) := by
  unfold Peripheral.loadWord
  rw [h.read]

theorem storeWord (h : Hom φ) (d : δ) (offset : UInt64) (bytes : Nat) (payload : UInt64) :
    storeWord (φ d) offset bytes payload = φ (storeWord d offset bytes payload) := by
  unfold Peripheral.storeWord
  simp only [h.layout, h.held, h.write]
  split
  · rfl
  · split <;> rfl

theorem loadBytes (h : Hom φ) (d : δ) (offset : UInt64) (n : Nat) :
    loadBytes (φ d) offset n = ((loadBytes d offset n).1, φ (loadBytes d offset n).2) := by
  induction n with
  | zero => rfl
  | succ n ih => simp only [Peripheral.loadBytes, ih, h.loadWord]

theorem storeBytes (h : Hom φ) (d : δ) (offset payload : UInt64) (n : Nat) :
    storeBytes (φ d) offset payload n = φ (storeBytes d offset payload n) := by
  induction n with
  | zero => rfl
  | succ n ih => simp only [Peripheral.storeBytes, ih, h.storeWord]

theorem load (h : Hom φ) (d : δ) (offset : UInt64) (size : AccessSize) :
    load (φ d) offset size = ((load d offset size).1, φ (load d offset size).2) := by
  unfold Peripheral.load
  simp only [h.loadWord, h.loadBytes]
  split
  · rfl
  · split <;> rfl

theorem store (h : Hom φ) (d : δ) (offset : UInt64) (size : AccessSize) (payload : UInt64) :
    store (φ d) offset size payload = φ (store d offset size payload) := by
  unfold Peripheral.store
  simp only [h.storeWord, h.storeBytes]
  split
  · rfl
  · split <;> rfl

theorem access (h : Hom φ) (d : δ) (offset : UInt64) (size : AccessSize) (direction : Direction)
    (payload : UInt64) :
    access (φ d) offset size direction payload =
      ((access d offset size direction payload).1,
        φ (access d offset size direction payload).2) := by
  cases direction with
  | read => exact h.load _ _ _
  | write => exact congrArg (Prod.mk 0) (h.store _ _ _ _)

end Hom

end BoardSim.Peripheral
