import BoardSim.Proofs.Demo.Chamber
import BoardSim.Proofs.Peripheral.Bits

/-!
# The console of the demo

The transmitter is always ready, so whatever firmware prints is sent at once and changes nothing
but the console.
-/

namespace BoardSim.Demo

open MonadCall Programs

def Ready (u : Uart) : Prop := anySet (u.regs.get Uart.sr) Uart.txe = true

namespace Ready

variable {u : Uart}

theorem advance (h : Ready u) (nanos : Nat) : Ready (u.advance nanos).1 := by
  show anySet (u.drainWire.loadNext.2.regs.get Uart.sr) Uart.txe = true
  unfold Uart.loadNext
  split
  · split
    · exact h
    · show anySet (((u.regs.set Uart.dr _).setBits Uart.sr Uart.rxne).get Uart.sr) Uart.txe = true
      rw [RegisterFile.get_setBits _ (by decide), RegisterFile.get_set_ne _ (by decide), anySet_or,
        Bool.or_eq_true]
      exact .inl h
  · exact h

theorem commit (h : Ready u) {i : Nat} (other : i ≠ Uart.sr) (word : UInt32) :
    Ready (u.commit i word) := by
  unfold Uart.commit
  split
  · show anySet ((u.regs.setBits Uart.sr (Uart.txe ||| Uart.tc)).get Uart.sr) Uart.txe = true
    rw [RegisterFile.get_setBits _ (by decide), anySet_or, Bool.or_eq_true]
    exact .inl h
  · show anySet ((u.regs.store i word).get Uart.sr) Uart.txe = true
    rw [RegisterFile.store, RegisterFile.get_set_ne _ other]
    exact h

end Ready

section
variable {s : Simulator Stats} (alive : s.stuck = false) {c : Chamber} (ready : Ready c.usart1)
  (m : Stats)
include alive ready

theorem ends_putByte (byte : UInt8) :
    ∃ usart1, Ready usart1 ∧ Ends (chamberLayout.putByte byte) (holding s c m) ()
      (holding s { c with usart1 } m) := by
  obtain ⟨sr, dr, -, -⟩ := usart1_registers
  have reads := Place.ends_readWord (m := Task Stats) alive sr c m
  have writes := Place.ends_writeWord (m := Task Stats) alive dr c m byte.toUInt32
  refine ⟨_, ready.commit (by decide : Uart.dr ≠ Uart.sr) byte.toUInt32, ends_bind reads ?_⟩
  have sends : anySet (Peripheral.fetch (Place.usart1.get c) Uart.sr).1 Uart.txe = true := ready
  rw [if_pos sends]
  exact writes

theorem ends_print (text : String) :
    ∃ usart1, Ready usart1 ∧ Ends (chamberLayout.print text) (holding s c m) ()
      (holding s { c with usart1 } m) := by
  unfold Layout.print
  induction text.toUTF8.toList generalizing c with
  | nil => exact ⟨c.usart1, ready, ends_pure () _⟩
  | cons byte rest ih =>
    obtain ⟨usart1, ready, sends⟩ := ends_putByte alive ready m byte
    obtain ⟨usart1', ready', prints⟩ := ih (c := { c with usart1 }) ready
    exact ⟨usart1', ready', ends_bind sends prints⟩

end

end BoardSim.Demo
