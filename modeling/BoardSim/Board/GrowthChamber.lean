import BoardSim.Board.Descriptor

/-!
# The growth-chamber board

The board that is simulated when no other is given: the controller of a growth chamber with two
CAN buses.
-/

namespace BoardSim.Board

def growthChamber : Board where
  name := "growth-chamber"
  simulation := { pacingMicros := some 200 }
  devices := [
    { id := "nvic", kind := "nvic", baseAddress := 0xE000E100, size := some "1KiB" },
    { id := "systick", kind := "systick", baseAddress := 0xE000E010, size := some "16B",
      irq := some 15, config := [("clock_hz", .int 48000000)] },
    { id := "tim2", kind := "timer", baseAddress := 0x40000000, size := some "1KiB",
      irq := some 28, config := [("clock_hz", .int 1000000)] },
    { id := "rtc", kind := "rtc", baseAddress := 0x40002800, size := some "1KiB",
      irq := some 3 },
    { id := "adc1", kind := "adc", baseAddress := 0x40012400, size := some "1KiB",
      irq := some 18 },
    { id := "spi1", kind := "spi", baseAddress := 0x40013000, size := some "1KiB",
      irq := some 35 },
    { id := "usart1", kind := "uart", baseAddress := 0x40013800, size := some "1KiB",
      irq := some 37 },
    { id := "can1", kind := "can", baseAddress := 0x40024000, size := some "4KiB",
      irq := some 20, config := [("bus", .int 0)] },
    { id := "can2", kind := "can", baseAddress := 0x40025000, size := some "4KiB",
      irq := some 21, config := [("bus", .int 1)] }]

end BoardSim.Board
