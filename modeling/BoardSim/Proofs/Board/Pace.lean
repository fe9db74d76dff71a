import BoardSim.Proofs.Bus.Word
import BoardSim.Proofs.Can.Run
import BoardSim.Proofs.Peripheral.Clock
import BoardSim.Proofs.Simulator.Devices
import BoardSim.Proofs.SysTick.Cycle
import BoardSim.Proofs.Timer.Range

/-!
# Clocked devices

Five kinds of devices run on a clock. `Device.Paced` is what the range of their arithmetic rests on:
the rate is the one that the device was built with, less than a cycle is left over, and the values
that cycles are added to are those of 16-bit registers. Nothing that happens to a device changes
that (`Paced.change`).
-/

namespace BoardSim

-- ---------------------------------------------------------------------------
-- Converters, clocks and system ticks
-- ---------------------------------------------------------------------------

namespace Adc

theorem kept_clock (clock : TickClock) : Peripheral.Kept fun a : Adc => a.clock = clock where
  fetch a i same := by
    simp only [Peripheral.fetch, Adc.fetch]
    split <;> exact same
  settle a i same := by
    rwa [Peripheral.settle_of_keep (by decide : ∀ r ∈ layout, r.onRead = .keep)]
  commit a i word same := by
    simp only [Peripheral.commit, Adc.commit]
    split
    · split <;> exact same
    · exact same

theorem clock_advance (a : Adc) (nanos : Nat) :
    (a.advance nanos).1.clock = (a.clock.advance nanos).2 := by
  simp only [advance, complete]
  split
  · rfl
  · split
    · rfl
    · split <;> rfl

end Adc

namespace Rtc

theorem kept_clock (clock : TickClock) : Peripheral.Kept fun r : Rtc => r.clock = clock where
  fetch r i same := same
  settle r i same := by
    rwa [Peripheral.settle_of_keep (by decide : ∀ r ∈ layout, r.onRead = .keep)]
  commit r i word same := by
    simp only [Peripheral.commit, Rtc.commit, writeControl, writeProtected]
    split
    · exact same
    · split
      · exact same
      · split
        · split <;> exact same
        · exact same

theorem clock_advance (r : Rtc) (nanos : Nat) :
    (r.advance nanos).1.clock = (r.clock.advance nanos).2 := by
  simp only [advance, run]
  split
  · rfl
  · split <;> rfl

/-- The seconds of a step after the one in which the divider first passes zero. -/
def rounds (r : Rtc) (cycles : UInt64) : UInt64 :=
  (cycles - r.div.toUInt64 - 1) / (r.prl.toUInt64 + 1)

def SumsFit (r : Rtc) (cycles : UInt64) : Prop :=
  r.div.toUInt64 < cycles → (1 + r.rounds cycles).toNat = 1 + (r.rounds cycles).toNat

/-- No step is long enough to make the sum overflow. -/
theorem sumsFit (r : Rtc) (cycles : UInt64) : r.SumsFit cycles := by
  intro past
  have below := UInt64.lt_iff_toNat_lt.1 past
  have rest : (cycles - r.div.toUInt64 - 1).toNat = cycles.toNat - r.div.toUInt64.toNat - 1 := by
    have first := UInt64.toNat_sub_of_le _ _ (UInt64.le_of_lt past)
    have one : (1 : UInt64) ≤ cycles - r.div.toUInt64 := by
      rw [UInt64.le_iff_toNat_le, first]
      exact Nat.sub_pos_of_lt below
    rw [UInt64.toNat_sub_of_le _ _ one, first]
    rfl
  have few : (r.rounds cycles).toNat ≤ cycles.toNat - r.div.toUInt64.toNat - 1 := by
    rw [rounds, UInt64.toNat_div, rest]
    exact Nat.div_le_self _ _
  have bound := cycles.toNat_lt_size
  rw [UInt64.toNat_add]
  exact Nat.mod_eq_of_lt (by simp only [UInt64.size, UInt64.reduceToNat] at *; omega)

end Rtc

namespace SysTick

theorem kept_clock (clock : TickClock) : Peripheral.Kept fun s : SysTick => s.clock = clock where
  fetch s i same := same
  settle s i same := by
    unfold Peripheral.settle
    split <;> exact same
  commit s i word same := by
    simp only [Peripheral.commit, SysTick.commit]
    split <;> exact same

end SysTick

namespace Timer

/-- The prescaler lets every cycle through, and the counter holds its largest value. -/
def widened (t : Timer) : Timer := { t with regs := (t.regs.store psc 0).store cnt 0xFFFF }

theorem Narrow.room_widened {t : Timer} (h : t.Narrow) {cycles : Nat}
    (room : t.widened.Room cycles) : 65535 + cycles < UInt64.size := by
  have prescaler : t.widened.regs.get psc = 0 := by
    rw [widened, RegisterFile.get_store_ne _ _ (by decide), RegisterFile.get_store _ (by decide),
      Register.store_of_low rfl h.words.psc]
    rfl
  have counter : t.widened.regs.get cnt = 0xFFFF := by
    rw [widened, RegisterFile.get_store _ (by decide),
      Register.store_of_low rfl (h.words.store psc 0).cnt]
    rfl
  have reached := room.2
  rw [prescaler, counter, UInt32.toNat_zero, Nat.div_one] at reached
  have value : (0xFFFF : UInt32).toNat = 65535 := rfl
  omega

end Timer

-- ---------------------------------------------------------------------------
-- CAN controllers
-- ---------------------------------------------------------------------------

namespace Can.Controller

theorem clock_configure (c : Controller) (word : UInt32) : (c.configure word).clock = c.clock := by
  obtain ⟨_, same, -⟩ := configure_cases c word
  rw [same]
  rfl

theorem kept_clock (clock : TickClock) : Peripheral.Kept fun c : Controller => c.clock = clock :=
  kept_of_commit fun c i word same => by
    unfold Controller.commit
    split
    · exact (c.clock_configure word).trans same
    · exact same

theorem Advanced.clock {c d : Controller} {nanos : Nat} (step : Advanced c nanos d) :
    d.clock = (c.clock.advance nanos).2 := by
  cases step with
  | discards off =>
    rw [discardAll_eq]
    rfl
  | _ => rfl

def Narrow (c : Controller) : Prop := (c.regs.get timer).toNat < 65536

theorem Narrow.of_timer {c d : Controller} (h : c.Narrow)
    (same : d.regs.get timer = c.regs.get timer) : d.Narrow := by
  unfold Narrow
  rw [same]
  exact h

theorem get_timer_showMode (c : Controller) : c.showMode.regs.get timer = c.regs.get timer :=
  RegisterFile.get_set_ne _ (by decide) _

theorem timer_lt_length : timer < layout.length := by
  rw [length_layout]
  decide

theorem writable_timer : (layout.get ⟨timer, timer_lt_length⟩).writable.toNat < 65536 := by
  decide +kernel

theorem reset_timer : (layout.get ⟨timer, timer_lt_length⟩).reset = 0 := by
  decide +kernel

/-- A soft reset starts the time stamp over. -/
theorem get_timer_softReset (c : Controller) : c.softReset.regs.get timer = 0 := by
  have later (file : RegisterFile layout) {i : Nat} (other : i ≠ timer) :
      (file.restart i).get timer = file.get timer := RegisterFile.get_set_ne _ other _
  simp only [softReset, List.foldl_cons, List.foldl_nil]
  rw [later _ (by decide), later _ (by decide), later _ (by decide), later _ (by decide),
    RegisterFile.get_restart _ timer_lt_length]
  exact reset_timer

theorem kept_narrow : Peripheral.Kept Narrow :=
  kept_of_commit fun c i word h => by
    unfold Controller.commit
    split
    · rw [Narrow, configure_eq, get_timer_showMode, RegisterFile.get_set_ne _ (by decide)]
      split
      · rw [get_timer_softReset]
        decide
      · exact h
    · exact RegisterFile.toNat_get_store_lt c.regs i word timer_lt_length writable_timer h

theorem narrow_ticked (c : Controller) (nanos : Nat) : (c.ticked nanos).Narrow := by
  rw [Narrow, ticked, advanceTimer, RegisterFile.get_set _ timer_lt_length, UInt64.toNat_toUInt32,
    UInt64.toNat_and]
  exact Nat.lt_of_le_of_lt (Nat.le_trans (Nat.mod_le _ _) Nat.and_le_right) (by decide)

theorem get_timer_enter (c : Controller) (mode : Mode) :
    (c.enter mode).regs.get timer = c.regs.get timer :=
  get_timer_showMode _

theorem get_timer_complete (c : Controller) (n : Nat) :
    (c.complete n).2.regs.get timer = c.regs.get timer :=
  RegisterFile.get_set_ne _ (by decide) _

theorem get_timer_fillBuffer (c : Controller) (n : Nat) (overrun : Bool) (frame : Frame) :
    (c.fillBuffer n overrun frame).regs.get timer = c.regs.get timer := by
  have buffer (k : Nat) : 10 + 4 * n + k ≠ timer := (Nat.ne_of_lt (timer_lt n k)).symm
  unfold fillBuffer
  rw [RegisterFile.get_set_ne _ (buffer 3), RegisterFile.get_set_ne _ (buffer 2),
    RegisterFile.get_set_ne _ (buffer 1), RegisterFile.get_set_ne (i := csWord n) _ (buffer 0)]

theorem get_timer_receive (c : Controller) (frame : Frame) :
    (c.receive frame).2.regs.get timer = c.regs.get timer := by
  unfold receive
  split
  · rw [record_eq]
  · split
    · rw [record_eq]
    · rw [record_eq, get_timer_complete, get_timer_fillBuffer]

theorem get_timer_transmit (c : Controller) (n : Nat) :
    (c.transmit n).2.regs.get timer = c.regs.get timer := by
  simp only [transmit]
  rw [record_eq, get_timer_complete]
  exact RegisterFile.get_set_ne _ (Nat.ne_of_lt (timer_lt n 0)).symm _

/-- Handling frames leaves the time stamp counter to the clock. -/
theorem get_timer_exchange (c : Controller) : c.exchange.1.regs.get timer = c.regs.get timer := by
  unfold exchange
  split
  · next frame inbox _ =>
    dsimp only
    rw [get_timer_enter, get_timer_receive, get_timer_enter]
  · split
    · rfl
    · dsimp only
      rw [get_timer_enter, get_timer_transmit, get_timer_enter]

theorem narrow_advance (c : Controller) (nanos : Nat) : (c.advance nanos).1.Narrow := by
  have ticked := c.narrow_ticked nanos
  have entered := ticked.of_timer (get_timer_enter _ .idle)
  have exchanged := ticked.of_timer (get_timer_exchange _)
  have waited : (if anySet ((c.ticked nanos).regs.get mcr) (Mcr.mdis ||| Mcr.halt) then
      c.ticked nanos else (c.ticked nanos).enter .idle).Narrow := by
    split
    · exact ticked
    · exact entered
  rw [advance_eq]
  split
  · rw [discardAll_eq]
    exact ticked
  · exact waited
  · exact waited
  · exact exchanged
  · exact exchanged
  · exact exchanged

def SumsFit (c : Controller) (cycles : UInt64) : Prop :=
  ((c.regs.get timer).toUInt64 + cycles).toNat = (c.regs.get timer).toNat + cycles.toNat

def Room (c : Controller) (cycles : Nat) : Prop :=
  (c.regs.get timer).toNat + cycles < UInt64.size

theorem sumsFit_iff (c : Controller) (cycles : UInt64) :
    c.SumsFit cycles ↔ c.Room cycles.toNat := by
  have sum := toNat_add_eq_iff (c.regs.get timer).toUInt64 cycles
  rwa [UInt32.toNat_toUInt64] at sum

theorem Narrow.sumsFit {c : Controller} (h : c.Narrow) {cycles : UInt64}
    (room : cycles.toNat ≤ UInt64.size - 1 - 65535) : c.SumsFit cycles := by
  rw [sumsFit_iff, Room]
  unfold Narrow at h
  simp only [UInt64.size] at room ⊢
  omega

theorem indexOf?_timer : layout.indexOf? 0x08 = some timer := by decide +kernel

theorem get_timer_commit {c : Controller} (h : c.Narrow) (word : UInt32) :
    (c.commit timer word).regs.get timer = word &&& 0xFFFF := by
  have low : ((layout.get ⟨timer, timer_lt_length⟩).writable,
      (layout.get ⟨timer, timer_lt_length⟩).onWrite) = (0xFFFF, .replace) := by decide +kernel
  exact (c.regs.get_store timer_lt_length word).trans (Register.store_of_low low h word)

end Can.Controller

-- ---------------------------------------------------------------------------
-- Any device
-- ---------------------------------------------------------------------------

namespace Device

def clock? : Device → Option TickClock
  | timer t => some t.clock
  | adc a => some a.clock
  | rtc r => some r.clock
  | sysTick s => some s.clock
  | can c => some c.clock
  | uart _ | spi _ | view _ | scratch _ => none

def Narrow : Device → Prop
  | timer t => t.Narrow
  | can c => c.Narrow
  | _ => True

def Converts (d : Device) (nanos : Nat) : Prop :=
  ∃ clock, d.clock? = some clock ∧ clock.Exact nanos

def SumsFit (d : Device) (nanos : Nat) : Prop :=
  match d with
  | timer t => t.SumsFit (t.clock.advance nanos).1
  | rtc r => r.SumsFit (r.clock.advance nanos).1
  | can c => c.SumsFit (c.clock.advance nanos).1
  | _ => True

/-- The sums as numbers. The sum of a real-time clock always fits. -/
def Room (d : Device) (cycles : Nat) : Prop :=
  match d with
  | timer t => t.Room cycles
  | can c => c.Room cycles
  | _ => True

theorem sumsFit_iff {d : Device} {clock : TickClock} (clocked : d.clock? = some clock)
    (nanos : Nat) : d.SumsFit nanos ↔ d.Room (clock.advance nanos).1.toNat := by
  cases d with
  | timer t =>
    cases clocked
    exact t.sumsFit_iff _
  | rtc r => exact iff_of_true (r.sumsFit _) trivial
  | can c =>
    cases clocked
    exact c.sumsFit_iff _
  | _ => exact Iff.rfl

/-- How many cycles fewer than 64 bits hold leave room for the sums of a device. -/
def slack : Device → Nat
  | timer _ => 2 * 65535
  | can _ => 65535
  | _ => 0

/-- How many of them a counter takes up that firmware has set to its largest value. The others are
for the phase of a prescaler, which firmware cannot set. -/
def counter : Device → Nat
  | timer _ | can _ => 65535
  | _ => 0

theorem counter_eq (d : Device) : d.counter = min d.slack 65535 := by cases d <;> rfl

theorem change_write (d : Device) (offset : UInt64) (i : Nat) (aligned : offset % 4 = 0)
    (found : d.layout.indexOf? offset = some i) (nanos : Nat) (word : UInt32) :
    d.Change nanos (d.writeRegister (.withLines 0) i word).1 := by
  have written := access_write_word aligned found (.withLines 0) word.toUInt64
  rw [UInt32.toUInt32_toUInt64] at written
  have change : d.Change nanos _ := .access (.withLines 0) offset .word .write word.toUInt64
  rwa [written] at change

theorem writeRegister_timer (t : Timer) {i : Nat} (plain : i ≠ Timer.egr)
    (controller : InterruptController) (word : UInt32) :
    (timer t).writeRegister controller i word =
      (timer { t with regs := t.regs.store i word }, controller) := by
  have commit : Peripheral.commit t i word = { t with regs := t.regs.store i word } :=
    if_neg fun event => plain event.1
  simp only [writeRegister, apply, commit]

/-- Firmware can make a counter as large as it gets, and count every cycle. -/
theorem exists_full {d : Device} (narrow : d.Narrow) (nanos : Nat) :
    ∃ d', d.Becomes nanos d' ∧ d'.clock? = d.clock? ∧
      ∀ cycles : UInt64, d'.Room cycles.toNat → d.counter + cycles.toNat < UInt64.size := by
  have alone (cycles : UInt64) : 0 + cycles.toNat < UInt64.size := by
    rw [Nat.zero_add]
    exact cycles.toNat_lt_size
  cases d with
  | timer t =>
    let t₁ : Timer := { t with regs := t.regs.store Timer.psc 0 }
    have found₁ : Timer.layout.indexOf? 0x28 = some Timer.psc := by decide
    have found₂ : Timer.layout.indexOf? 0x24 = some Timer.cnt := by decide
    have first := (timer t).change_write 0x28 Timer.psc rfl found₁ nanos 0
    have second := (timer t₁).change_write 0x24 Timer.cnt rfl found₂ nanos 0xFFFF
    rw [writeRegister_timer t (by decide)] at first
    rw [writeRegister_timer t₁ (by decide)] at second
    exact ⟨timer t.widened, .tail (.single first) second, rfl,
      fun cycles room => Timer.Narrow.room_widened narrow room⟩
  | can c =>
    have change : (can c).Change nanos (can (c.commit Can.Controller.timer 0xFFFF)) :=
      (can c).change_write 0x08 Can.Controller.timer rfl Can.Controller.indexOf?_timer nanos 0xFFFF
    refine ⟨_, .single change, rfl, fun cycles room => ?_⟩
    have sum : ((c.commit Can.Controller.timer 0xFFFF).regs.get Can.Controller.timer).toNat +
      cycles.toNat < UInt64.size := room
    rwa [Can.Controller.get_timer_commit narrow] at sum
  | _ => exact ⟨_, .refl, rfl, fun cycles _ => alone cycles⟩

theorem clock?_access (d : Device) (controller : InterruptController) (offset : UInt64)
    (size : AccessSize) (direction : Direction) (payload : UInt64) :
    (d.access controller offset size direction payload).2.1.clock? = d.clock? := by
  cases d with
  | timer t => exact congrArg some ((Timer.kept_clock t.clock).access rfl ..)
  | adc a => exact congrArg some ((Adc.kept_clock a.clock).access rfl ..)
  | rtc r => exact congrArg some ((Rtc.kept_clock r.clock).access rfl ..)
  | sysTick s => exact congrArg some ((SysTick.kept_clock s.clock).access rfl ..)
  | can c => exact congrArg some ((Can.Controller.kept_clock c.clock).access rfl ..)
  | uart _ | spi _ | view _ | scratch _ => rfl

theorem Narrow.access {d : Device} (h : d.Narrow) (controller : InterruptController)
    (offset : UInt64) (size : AccessSize) (direction : Direction) (payload : UInt64) :
    (d.access controller offset size direction payload).2.1.Narrow := by
  cases d with
  | timer t => exact Timer.kept_narrow.access h ..
  | can c => exact Can.Controller.kept_narrow.access h ..
  | _ => trivial

theorem clock?_advance (d : Device) (nanos : Nat) :
    (Bus.takeTraffic (d.advance nanos).1).2.clock? =
      d.clock?.map fun clock => (clock.advance nanos).2 := by
  cases d with
  | timer t => exact congrArg some (t.clock_advance nanos)
  | adc a => exact congrArg some (a.clock_advance nanos)
  | rtc r => exact congrArg some (r.clock_advance nanos)
  | sysTick s => exact congrArg some (s.clock_advance nanos)
  | can c => exact congrArg some (c.advance_cases nanos).clock
  | uart _ | spi _ | view _ | scratch _ => rfl

theorem Narrow.advance {d : Device} (h : d.Narrow) (nanos : Nat) :
    (Bus.takeTraffic (d.advance nanos).1).2.Narrow := by
  cases d with
  | timer t => exact Timer.Narrow.advance h nanos
  | can c => exact c.narrow_advance nanos
  | _ => trivial

theorem Served.clock? {d d' : Device} (served : d.Served d') : d'.clock? = d.clock? := by
  cases served with
  | can regs mode clock => exact congrArg some clock
  | _ => rfl

theorem Served.narrow {d d' : Device} (served : d.Served d') (h : d.Narrow) : d'.Narrow := by
  cases served with
  | rest => exact h
  | can regs mode clock => exact Can.Controller.Narrow.of_timer h (by rw [regs])
  | _ => trivial

theorem slack_access (d : Device) (controller : InterruptController) (offset : UInt64)
    (size : AccessSize) (direction : Direction) (payload : UInt64) :
    (d.access controller offset size direction payload).2.1.slack = d.slack := by
  cases d <;> rfl

theorem slack_advance (d : Device) (nanos : Nat) :
    (Bus.takeTraffic (d.advance nanos).1).2.slack = d.slack := by
  cases d <;> rfl

theorem Served.slack {d d' : Device} (served : d.Served d') : d'.slack = d.slack := by
  cases served <;> rfl

structure Paced (origin d : Device) : Prop where
  rate : d.clock?.map TickClock.hz = origin.clock?.map TickClock.hz
  slack : d.slack = origin.slack
  fraction : ∀ clock, d.clock? = some clock → clock.remainder.toNat < nanosPerSecond
  narrow : d.Narrow

namespace Paced

variable {origin d d' : Device} {nanos : Nat}

theorem change (h : Paced origin d) (changed : d.Change nanos d') : Paced origin d' := by
  cases changed with
  | access controller offset size direction payload =>
    have same := d.clock?_access controller offset size direction payload
    exact {
      rate := same ▸ h.rate
      slack := (d.slack_access ..).trans h.slack
      fraction := fun clock found => h.fraction clock (same ▸ found)
      narrow := h.narrow.access .. }
  | advance =>
    have moved := d.clock?_advance nanos
    refine ⟨?_, (d.slack_advance nanos).trans h.slack, fun clock found => ?_,
      h.narrow.advance nanos⟩
    · rw [moved, Option.map_map]
      exact h.rate
    · rw [moved] at found
      obtain ⟨before, -, rfl⟩ := Option.map_eq_some_iff.1 found
      exact before.remainder_advance_lt nanos
  | serve served =>
    have same := served.clock?
    exact {
      rate := same ▸ h.rate
      slack := served.slack.trans h.slack
      fraction := fun clock found => h.fraction clock (same ▸ found)
      narrow := served.narrow h.narrow }

theorem becomes (h : Paced origin d) (becomes : d.Becomes nanos d') : Paced origin d' := by
  induction becomes with
  | refl => exact h
  | tail _ last ih => exact ih.change last

theorem clock? (h : Paced origin d) {clock : TickClock} (clocked : origin.clock? = some clock) :
    ∃ clock', d.clock? = some clock' ∧ clock'.hz = clock.hz := by
  have rate := h.rate
  rw [clocked] at rate
  exact Option.map_eq_some_iff.1 rate

section
variable {clock : TickClock} (h : Paced origin d) (clocked : origin.clock? = some clock)
include h clocked

theorem converts (within : nanos * clock.hz.toNat ≤ TickClock.capacity 0) : d.Converts nanos := by
  obtain ⟨clock', found, rate⟩ := h.clock? clocked
  rw [← rate] at within
  exact ⟨clock', found, (TickClock.exact_of_le 0 within (h.fraction clock' found)).1⟩

/-- Within the capacity that the slack leaves, no sum overflows. -/
theorem sumsFit (within : nanos * clock.hz.toNat ≤ TickClock.capacity origin.slack) :
    d.SumsFit nanos := by
  obtain ⟨clock', found, rate⟩ := h.clock? clocked
  rw [← rate, ← h.slack] at within
  have cycles := (TickClock.exact_of_le d.slack within (h.fraction clock' found)).2
  cases d with
  | timer t =>
    cases found
    exact Timer.Narrow.sumsFit h.narrow cycles
  | rtc r => exact r.sumsFit _
  | can c =>
    cases found
    exact Can.Controller.Narrow.sumsFit h.narrow cycles
  | _ => trivial

end

/-- Only changes of the clock are needed to bring it to any of its later states. -/
theorem exists_later (origin : Device) {clock : TickClock} (clocked : origin.clock? = some clock)
    (nanos steps : Nat) :
    ∃ d, origin.Becomes nanos d ∧ d.clock? = some (clock.later nanos steps) := by
  induction steps with
  | zero => exact ⟨origin, .refl, clocked⟩
  | succ steps ih =>
    obtain ⟨d, becomes, found⟩ := ih
    refine ⟨_, .tail becomes .advance, ?_⟩
    rw [clock?_advance, found, TickClock.later_succ]
    rfl

/-- Conversions and sums are exact only within the capacity that a full counter leaves. -/
theorem le_capacity_counter (h : Paced origin origin) {clock : TickClock}
    (clocked : origin.clock? = some clock)
    (exact : ∀ d, origin.Becomes nanos d → d.Converts nanos ∧ d.SumsFit nanos) :
    nanos * clock.hz.toNat ≤ TickClock.capacity origin.counter := by
  refine Nat.le_of_not_lt fun beyond => ?_
  obtain ⟨steps, long⟩ :=
    TickClock.exists_due_gt (UInt64.size - 1 - origin.counter)
      (Nat.lt_of_le_of_lt (Nat.sub_le _ _) (by decide)) beyond
  obtain ⟨d, becomes, found⟩ := exists_later origin clocked nanos steps
  have paced := h.becomes becomes
  obtain ⟨full, filled, same, room⟩ := exists_full paced.narrow nanos
  obtain ⟨⟨clock', found', converts⟩, sums⟩ := exact full (becomes.trans filled)
  obtain rfl : clock' = clock.later nanos steps :=
    Option.some.inj (found'.symm.trans (same.trans found))
  have fits := room _ ((sumsFit_iff found' nanos).1 sums)
  rw [converts.toNat_cycles, d.counter_eq, paced.slack, ← origin.counter_eq] at fits
  omega

end Paced

end Device

end BoardSim
