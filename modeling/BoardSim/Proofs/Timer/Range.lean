import BoardSim.Peripheral.Timer
import BoardSim.Proofs.Peripheral.Access
import BoardSim.Proofs.Peripheral.Bits

/-!
# The range of a timer

The registers that count have 16 bits, and so has the phase of the prescaler: whatever firmware and
time do, that stays so (`kept_narrow`, `Narrow.advance`). `SumsFit` says that the sums which a step
of time makes do not wrap. That is so exactly if the numbers leave `Room` for them (`sumsFit_iff`),
and in every state if the step has no more cycles than fit beside the registers (`Narrow.sumsFit`).
-/

namespace BoardSim

namespace Timer

structure NarrowWords (file : RegisterFile layout) : Prop where
  cnt : (file.get cnt).toNat < 65536
  psc : (file.get psc).toNat < 65536
  arr : (file.get arr).toNat < 65536

namespace NarrowWords

variable {file : RegisterFile layout}

theorem store (h : NarrowWords file) (i : Nat) (word : UInt32) :
    NarrowWords (file.store i word) where
  cnt := file.toNat_get_store_lt i word (by decide) (by decide) h.cnt
  psc := file.toNat_get_store_lt i word (by decide) (by decide) h.psc
  arr := file.toNat_get_store_lt i word (by decide) (by decide) h.arr

/-- Registers before `CNT` do not matter. -/
theorem set_of_lt (h : NarrowWords file) {i : Nat} (before : i < Timer.cnt) (word : UInt32) :
    NarrowWords (file.set i word) where
  cnt := by rw [RegisterFile.get_set_ne _ (Nat.ne_of_lt before)]; exact h.cnt
  psc := by
    rw [RegisterFile.get_set_ne _ (Nat.ne_of_lt (Nat.lt_trans before (by decide)))]
    exact h.psc
  arr := by
    rw [RegisterFile.get_set_ne _ (Nat.ne_of_lt (Nat.lt_trans before (by decide)))]
    exact h.arr

theorem set_cnt (h : NarrowWords file) {word : UInt32} (narrow : word.toNat < 65536) :
    NarrowWords (file.set Timer.cnt word) where
  cnt := by rwa [RegisterFile.get_set _ (by decide)]
  psc := by rw [RegisterFile.get_set_ne _ (by decide)]; exact h.psc
  arr := by rw [RegisterFile.get_set_ne _ (by decide)]; exact h.arr

end NarrowWords

structure Narrow (t : Timer) : Prop where
  phase : t.phase.toNat < 65536
  words : NarrowWords t.regs

theorem kept_of_commit {P : Timer → Prop} (commit : ∀ t i word, P t → P (Timer.commit t i word)) :
    Peripheral.Kept P where
  fetch _ _ h := h
  settle t i h := by
    rwa [Peripheral.settle_of_keep (by decide : ∀ r ∈ layout, r.onRead = .keep)]
  commit := commit

theorem kept_clock (clock : TickClock) : Peripheral.Kept fun t : Timer => t.clock = clock :=
  kept_of_commit fun t i word same => by
    unfold Timer.commit
    split <;> exact same

theorem kept_narrow : Peripheral.Kept Narrow :=
  kept_of_commit fun t i word h => by
    have stored := h.words.store i word
    simp only [Timer.commit]
    split
    · have restarted := stored.set_cnt (show (0 : UInt32).toNat < 65536 by decide)
      exact ⟨Nat.zero_lt_succ _, (restarted.set_of_lt (by decide) _).set_of_lt (by decide) _⟩
    · exact ⟨h.phase, stored⟩

theorem clock_count (t : Timer) (cycles : UInt64) : (t.count cycles).clock = t.clock := by
  simp only [count]
  split
  · rfl
  · split <;> rfl

theorem clock_advance (t : Timer) (nanos : Nat) :
    (t.advance nanos).1.clock = (t.clock.advance nanos).2 := by
  simp only [advance]
  split
  · rfl
  · exact clock_count _ _

/-- What is at most a 16-bit word has 16 bits itself. -/
theorem toNat_toUInt32_lt {value : UInt64} {word : UInt32} (narrow : word.toNat < 65536)
    (below : value.toNat < word.toNat + 1) : value.toUInt32.toNat < 65536 := by
  rw [UInt64.toNat_toUInt32]
  exact Nat.lt_of_le_of_lt (Nat.mod_le _ _) (by omega)

theorem toNat_mod_succ_lt (value : UInt64) {word : UInt32} (narrow : word.toNat < 65536) :
    (value % (word.toUInt64 + 1)).toUInt32.toNat < 65536 := by
  rw [toNat_mod_succ]
  exact Nat.lt_of_lt_of_le (Nat.mod_lt _ (Nat.succ_pos _)) narrow

theorem Narrow.count {t : Timer} (h : t.Narrow) (cycles : UInt64) : (t.count cycles).Narrow := by
  have phase := toNat_mod_succ_lt (t.phase.toUInt64 + cycles) h.words.psc
  simp only [Timer.count]
  split
  · next short =>
    rw [UInt64.lt_iff_toNat_lt, toNat_succ_toUInt64] at short
    exact ⟨phase, h.words.set_cnt (toNat_toUInt32_lt h.words.arr short)⟩
  · have wrapped (reached : UInt64) :=
      h.words.set_cnt (toNat_mod_succ_lt reached h.words.arr)
    have latched (reached : UInt64) (word : UInt32) :=
      (wrapped reached).set_of_lt (i := sr) (by decide) word
    split
    · exact ⟨phase, ((latched _ _).set_of_lt (by decide) _).set_cnt (by decide)⟩
    · exact ⟨phase, latched _ _⟩

theorem Narrow.advance {t : Timer} (h : t.Narrow) (nanos : Nat) : (t.advance nanos).1.Narrow := by
  have moved : Narrow { t with clock := (t.clock.advance nanos).2 } := ⟨h.phase, h.words⟩
  simp only [Timer.advance]
  split
  · exact moved
  · exact moved.count _

def counts (t : Timer) (cycles : UInt64) : UInt64 :=
  (t.phase.toUInt64 + cycles) / ((t.regs.get psc).toUInt64 + 1)

/-- The sums that `count` makes: phase and cycles, counter and counts. -/
structure SumsFit (t : Timer) (cycles : UInt64) : Prop where
  total : (t.phase.toUInt64 + cycles).toNat = t.phase.toNat + cycles.toNat
  reached : ((t.regs.get cnt).toUInt64 + t.counts cycles).toNat =
    (t.regs.get cnt).toNat + (t.counts cycles).toNat

def Room (t : Timer) (cycles : Nat) : Prop :=
  t.phase.toNat + cycles < UInt64.size ∧
    (t.regs.get cnt).toNat + (t.phase.toNat + cycles) / ((t.regs.get psc).toNat + 1) < UInt64.size

theorem sumsFit_iff (t : Timer) (cycles : UInt64) : t.SumsFit cycles ↔ t.Room cycles.toNat := by
  have total := toNat_add_eq_iff t.phase.toUInt64 cycles
  have reached := toNat_add_eq_iff (t.regs.get cnt).toUInt64 (t.counts cycles)
  simp only [UInt32.toNat_toUInt64] at total reached
  have counts (fits : (t.phase.toUInt64 + cycles).toNat = t.phase.toNat + cycles.toNat) :
      (t.counts cycles).toNat =
        (t.phase.toNat + cycles.toNat) / ((t.regs.get psc).toNat + 1) := by
    rw [Timer.counts, UInt64.toNat_div, fits, toNat_succ_toUInt64]
  constructor
  · intro fit
    exact ⟨total.1 fit.total, counts fit.total ▸ reached.1 fit.reached⟩
  · intro room
    have fits := total.2 room.1
    exact ⟨fits, reached.2 (counts fits ▸ room.2)⟩

theorem Narrow.sumsFit {t : Timer} (h : t.Narrow) {cycles : UInt64}
    (room : cycles.toNat ≤ UInt64.size - 1 - 2 * 65535) : t.SumsFit cycles := by
  have phase := h.phase
  have cnt := h.words.cnt
  have few := Nat.div_le_self (t.phase.toNat + cycles.toNat) ((t.regs.get psc).toNat + 1)
  rw [sumsFit_iff]
  constructor <;> simp only [UInt64.size] at room ⊢ <;> omega

end Timer

end BoardSim
