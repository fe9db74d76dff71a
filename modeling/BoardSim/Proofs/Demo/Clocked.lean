import BoardSim.Demo.Firmware
import BoardSim.Proofs.Peripheral.Bits

/-!
# The timer and the converter of the demo

Both run at a megahertz, so a tick of a millisecond is a thousand of their cycles: one count of the
timer, whose update event comes every hundred ticks, and more than a conversion takes.
-/

namespace BoardSim.Demo

def tickNanos : Nat := 1000000

def megahertz : TickClock := { hz := 1000000 }

theorem advance_megahertz : megahertz.advance tickNanos = (1000, megahertz) := rfl

-- ---------------------------------------------------------------------------
-- Timer
-- ---------------------------------------------------------------------------

/-- The timer as firmware set it up, at `n`; `fired` tells whether an update event waits for its
handler. -/
structure Paces (t : Timer) (n : Nat) (fired : Bool) : Prop where
  control : t.regs.get Timer.cr1 = Timer.cen
  enabled : t.regs.get Timer.dier = Timer.uie
  status : t.regs.get Timer.sr = if fired then Timer.uif else 0
  prescaler : t.regs.get Timer.psc = 999
  reload : t.regs.get Timer.arr = 99
  counter : t.regs.get Timer.cnt = UInt32.ofNat n
  counter_lt : n < 100
  phase : t.phase = 0
  clock : t.clock = megahertz

namespace Paces

variable {t : Timer} {n : Nat} {fired : Bool}

theorem requests (h : Paces t n fired) : t.requests = fired := by
  unfold Timer.requests
  rw [h.status, h.enabled]
  cases fired <;> rfl

/-- Only the counter and the update event change. -/
theorem move (h : Paces t n fired) {t' : Timer} {n' : Nat} {fired' : Bool}
    (status : t'.regs.get Timer.sr = if fired' then Timer.uif else 0)
    (counter : t'.regs.get Timer.cnt = UInt32.ofNat n') (counter_lt : n' < 100)
    (kept : ∀ i, Timer.sr ≠ i → Timer.cnt ≠ i → t'.regs.get i = t.regs.get i)
    (phase : t'.phase = t.phase) (clock : t'.clock = t.clock) : Paces t' n' fired' where
  control := (kept _ (by decide) (by decide)).trans h.control
  enabled := (kept _ (by decide) (by decide)).trans h.enabled
  status := status
  prescaler := (kept _ (by decide) (by decide)).trans h.prescaler
  reload := (kept _ (by decide) (by decide)).trans h.reload
  counter := counter
  counter_lt := counter_lt
  phase := phase.trans h.phase
  clock := clock.trans h.clock

/-- A thousand cycles are one count. -/
theorem count_eq (h : Paces t n false) :
    t.count 1000 =
      if n + 1 < 100 then { t with regs := t.regs.set Timer.cnt (UInt32.ofNat (n + 1)) }
      else { t with regs := (t.regs.set Timer.cnt 0).setBits Timer.sr Timer.uif } := by
  have table : ∀ n < 100, ((UInt32.ofNat n).toUInt64 + 1 < 100 ↔ n + 1 < 100) ∧
      ((UInt32.ofNat n).toUInt64 + 1).toUInt32 = UInt32.ofNat (n + 1) := by decide +kernel
  obtain ⟨below, next⟩ := table n h.counter_lt
  have runs : anySet (((t.regs.set Timer.cnt 0).setBits Timer.sr Timer.uif).get Timer.cr1)
      Timer.opm = false := by
    rw [RegisterFile.setBits, RegisterFile.get_set_ne _ (by decide),
      RegisterFile.get_set_ne _ (by decide), h.control]
    rfl
  have phase : ((0 : UInt32).toUInt64 + 1000) / ((999 : UInt32).toUInt64 + 1) = 1 ∧
      (((0 : UInt32).toUInt64 + 1000) % ((999 : UInt32).toUInt64 + 1)).toUInt32 = 0 ∧
      (99 : UInt32).toUInt64 + 1 = 100 := by decide
  unfold Timer.count
  simp only [h.prescaler, h.reload, h.counter, h.phase, phase, below, next]
  split
  · rfl
  · next past =>
    obtain rfl : n = 99 := by
      have := h.counter_lt
      omega
    have wrapped : ((((UInt32.ofNat 99).toUInt64 + 1) % 100 : UInt64)).toUInt32 = 0 := by decide
    rw [wrapped, runs]
    rfl

theorem advance (h : Paces t n false) :
    Paces (t.advance tickNanos).1 ((n + 1) % 100) (n + 1 == 100) ∧
      (t.advance tickNanos).2 = .line (n + 1 == 100) := by
  have stepped : t.advance tickNanos = (t.count 1000, .line (t.count 1000).requests) := by
    have running : (!anySet (t.regs.get Timer.cr1) Timer.cen || (1000 : UInt64) == 0) = false := by
      rw [h.control]
      rfl
    have same : { t with clock := megahertz } = t := by rw [← h.clock]
    unfold Timer.advance
    rw [h.clock, advance_megahertz]
    simp only [same, running, Bool.false_eq_true, if_false]
  have paces : Paces (t.count 1000) ((n + 1) % 100) (n + 1 == 100) := by
    have := h.counter_lt
    rw [h.count_eq]
    split
    · next inside =>
      rw [Nat.mod_eq_of_lt inside, show (n + 1 == 100) = false by simp; omega]
      refine h.move ?_ (RegisterFile.get_set _ (by decide) _) inside
        (fun i _ other => RegisterFile.get_set_ne _ other _) rfl rfl
      exact (RegisterFile.get_set_ne _ (by decide) _).trans h.status
    · next past =>
      obtain rfl : n = 99 := by omega
      refine h.move ?_ ?_ (by decide) (fun i first second => ?_) rfl rfl
      · rw [RegisterFile.get_setBits _ (by decide), RegisterFile.get_set_ne _ (by decide), h.status]
        rfl
      · rw [RegisterFile.setBits, RegisterFile.get_set_ne _ (by decide),
          RegisterFile.get_set _ (by decide)]
        rfl
      · rw [RegisterFile.setBits, RegisterFile.get_set_ne _ first,
          RegisterFile.get_set_ne _ second]
  rw [stepped]
  exact ⟨paces, by rw [paces.requests]⟩

/-- The handler clears the update event. -/
theorem acknowledge (h : Paces t n fired) : Paces (t.commit Timer.sr (~~~Timer.uif)) n false := by
  refine h.move ?_ ((RegisterFile.get_set_ne _ (by decide) _).trans h.counter) h.counter_lt
    (fun i other _ => RegisterFile.get_set_ne _ other _) rfl rfl
  show (t.regs.store Timer.sr (~~~Timer.uif)).get Timer.sr = 0
  rw [RegisterFile.get_store _ (by decide), h.status]
  cases fired <;> decide

end Paces

-- ---------------------------------------------------------------------------
-- Converter
-- ---------------------------------------------------------------------------

structure Converts (a : Adc) (level : UInt16) (busy : Bool) : Prop where
  interrupt : a.regs.get Adc.cr1 = Adc.eocie
  control : a.regs.get Adc.cr2 = Adc.adon
  sequence : a.regs.get Adc.sqr3 = 0
  channel : a.channel? 0 = some level
  clock : a.clock = megahertz
  converting : a.converting = busy
  remaining : busy = true → a.remaining = Adc.conversionCycles

namespace Converts

variable {a : Adc} {level : UInt16} {busy : Bool}

/-- Only the status and the data register change. -/
theorem move (h : Converts a level busy) {a' : Adc} {busy' : Bool}
    (kept : ∀ i, Adc.sr ≠ i → Adc.dr ≠ i → a'.regs.get i = a.regs.get i)
    (channels : a'.channels = a.channels) (clock : a'.clock = a.clock)
    (converting : a'.converting = busy')
    (remaining : busy' = true → a'.remaining = Adc.conversionCycles) :
    Converts a' level busy' where
  interrupt := (kept _ (by decide) (by decide)).trans h.interrupt
  control := (kept _ (by decide) (by decide)).trans h.control
  sequence := (kept _ (by decide) (by decide)).trans h.sequence
  channel := by rw [Adc.channel?, channels, ← Adc.channel?, h.channel]
  clock := clock.trans h.clock
  converting := converting
  remaining := remaining

theorem advance_idle (h : Converts a level false) : a.advance tickNanos = (a, .quiet) := by
  have same : { a with clock := megahertz } = a := by rw [← h.clock]
  unfold Adc.advance
  rw [h.clock, advance_megahertz]
  simp only [same]
  rw [h.converting]
  rfl

/-- A tick is longer than a conversion. -/
theorem advance_busy (h : Converts a level true) :
    Converts (a.advance tickNanos).1 level false ∧
      (a.advance tickNanos).1.regs.get Adc.dr = level.toUInt32 ∧
      (a.advance tickNanos).2 = .line true := by
  have same : { a with clock := megahertz } = a := by rw [← h.clock]
  have completes : a.advance tickNanos = a.complete := by
    unfold Adc.advance
    rw [h.clock, advance_megahertz]
    simp only [same]
    rw [h.converting, h.remaining rfl]
    rfl
  have kept : ∀ i, Adc.sr ≠ i → Adc.dr ≠ i →
      ((a.regs.set Adc.dr level.toUInt32).setBits Adc.sr Adc.eoc).get i = a.regs.get i := by
    intro i first second
    rw [RegisterFile.setBits, RegisterFile.get_set_ne _ first, RegisterFile.get_set_ne _ second]
  have ended : a.complete = ({ a with
      converting := false
      regs := (a.regs.set Adc.dr level.toUInt32).setBits Adc.sr Adc.eoc }, .line true) := by
    have selected : a.selected = 0 := by
      unfold Adc.selected
      rw [h.sequence]
      rfl
    unfold Adc.complete
    rw [selected, h.channel, Option.getD_some]
    simp only [kept Adc.cr1 (by decide) (by decide), h.interrupt,
      kept Adc.cr2 (by decide) (by decide), h.control]
    rfl
  rw [completes, ended]
  refine ⟨h.move kept rfl rfl rfl nofun, ?_, rfl⟩
  exact (RegisterFile.get_set_ne _ (by decide) _).trans (RegisterFile.get_set _ (by decide) _)

/-- The handler reads the sample, which clears the end of the conversion. -/
theorem read (h : Converts a level busy) : Converts (a.fetch Adc.dr).2 level busy :=
  h.move (fun _ first _ => RegisterFile.get_set_ne _ first _) rfl rfl h.converting h.remaining

/-- The timer's handler starts a conversion. -/
theorem start (h : Converts a level false) :
    Converts (a.commit Adc.cr2 (Adc.adon ||| Adc.swstart)) level true := by
  have powered : (a.regs.store Adc.cr2 (Adc.adon ||| Adc.swstart)).get Adc.cr2 =
      Adc.adon ||| Adc.swstart := by
    rw [RegisterFile.get_store _ (by decide), h.control]
    decide
  have starts : a.commit Adc.cr2 (Adc.adon ||| Adc.swstart) =
      { ({ a with regs := a.regs.store Adc.cr2 (Adc.adon ||| Adc.swstart) } : Adc).start with
        regs := (((a.regs.store Adc.cr2 (Adc.adon ||| Adc.swstart)).clearBits Adc.sr
          Adc.eoc).setBits Adc.sr Adc.strt).clearBits Adc.cr2 Adc.swstart } := by
    unfold Adc.commit
    simp only [if_true, powered, h.control]
    rfl
  have kept {i : Nat} (control : Adc.cr2 ≠ i) (status : Adc.sr ≠ i) :
      (a.commit Adc.cr2 (Adc.adon ||| Adc.swstart)).regs.get i = a.regs.get i := by
    rw [starts, RegisterFile.clearBits, RegisterFile.get_set_ne _ control, RegisterFile.setBits,
      RegisterFile.get_set_ne _ status, RegisterFile.clearBits, RegisterFile.get_set_ne _ status,
      RegisterFile.store, RegisterFile.get_set_ne _ control]
  have control : (a.commit Adc.cr2 (Adc.adon ||| Adc.swstart)).regs.get Adc.cr2 = Adc.adon := by
    rw [starts, RegisterFile.get_clearBits _ (by decide), RegisterFile.setBits,
      RegisterFile.get_set_ne _ (by decide), RegisterFile.clearBits,
      RegisterFile.get_set_ne _ (by decide), powered]
    rfl
  refine ⟨?_, control, ?_, ?_, ?_, ?_, fun _ => ?_⟩
  · exact (kept (by decide) (by decide)).trans h.interrupt
  · exact (kept (by decide) (by decide)).trans h.sequence
  all_goals rw [starts]
  · exact h.channel
  · exact h.clock
  · rfl
  · rfl

end Converts

end BoardSim.Demo
