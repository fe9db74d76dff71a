import BoardSim.Decimal.Shortest
import BoardSim.Json.Value
import BoardSim.Text.Hex

/-!
# Run summaries

What a run came to, as lines for a reader or as one JSON object.
-/

namespace BoardSim.Command

structure Summary where
  /-- The run reached its last tick and was stopped in order. -/
  finished : Bool
  ticks : UInt64
  simTimeMicros : UInt64
  irqsTotal : UInt64
  /-- The lines of the board's devices that were dispatched, with how often. -/
  irqsByLine : List (UInt32 × UInt64)
  rate : Float
  adcSamples : UInt64
  lastSample : UInt32
  setpoint : UInt32
  canFrames : UInt64
  uartBytes : UInt64

namespace Summary

open Json (nat)

def status (s : Summary) : String := if s.finished then "finished" else "failed"

def toJson (s : Summary) : Json := .obj [
  ("status", .str s.status), ("ticks", nat s.ticks.toNat),
  ("sim_time_us", nat s.simTimeMicros.toNat), ("irqs_total", nat s.irqsTotal.toNat),
  ("irqs_by_line", Json.list
    (fun (line, count) => .arr [nat line.toNat, nat count.toNat]) s.irqsByLine),
  ("ticks_per_sec", .float s.rate), ("adc_samples", nat s.adcSamples.toNat),
  ("last_sample", nat s.lastSample.toNat), ("setpoint", nat s.setpoint.toNat),
  ("can_tx_frames", nat s.canFrames.toNat), ("uart_bytes", nat s.uartBytes.toNat)]

/-- The line of one interrupt line; its number is aligned to three places. -/
def lineCount (entry : UInt32 × UInt64) : String :=
  "  line " ++ Text.padLeft 3 ' ' (toString entry.1.toNat) ++ ":   " ++ toString entry.2.toNat

def lines (s : Summary) : List String :=
  ["", "=== ChamberSim run ===",
    "Ticks:        " ++ toString s.ticks.toNat,
    "Sim time:     " ++ toString s.simTimeMicros.toNat ++ " us",
    "Interrupts:   " ++ toString s.irqsTotal.toNat] ++
  s.irqsByLine.map lineCount ++
  ["Ticks/sec:    " ++ (Decimal.whole? s.rate).getD "NaN",
    "ADC samples:  " ++ toString s.adcSamples.toNat ++ " (last " ++
      Text.hexPadded 5 s.lastSample.toNat ++ ")",
    "Setpoint:     " ++ toString s.setpoint.toNat,
    "CAN0 tx:      " ++ toString s.canFrames.toNat ++ " frame(s)",
    "USART1 tx:    " ++ toString s.uartBytes.toNat ++ " byte(s)"]

end Summary

end BoardSim.Command
