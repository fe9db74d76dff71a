import BoardSim.Demo.Layout

/-!
# The demo firmware

The controller of a growth chamber. The timer starts a conversion of the temperature probe, every
sample is published on the CAN bus, and one message buffer takes in new setpoints. Once per
simulated second a status line goes out on the console.
-/

namespace BoardSim.Demo

open MonadCall

structure Stats where
  samples : UInt64 := 0
  lastSample : UInt32 := 0
  setpoint : UInt32 := 0
  published : UInt64 := 0
  ready : Bool := false
  /-- The tick of the next status line. -/
  nextStatus : UInt64 := 0
deriving DecidableEq

/-- The identifier of frames that bring a new setpoint, in tenths of a degree. -/
def setpointId : UInt32 := 0x100

/-- The identifier of frames that publish a sample. -/
def sampleId : UInt32 := 0x200

/-- The message buffer that receives setpoints. -/
def rxBuffer : Nat := 0

/-- The message buffer that sends samples. -/
def txBuffer : Nat := 8

def rxFlag : UInt32 := 1 <<< UInt32.ofNat rxBuffer
def txFlag : UInt32 := 1 <<< UInt32.ofNat txBuffer

namespace Layout

def bufferAddress (l : Layout) (buffer : Nat) : UInt64 :=
  l.canBase + Can.bufferOffset (UInt64.ofNat buffer)

-- ---------------------------------------------------------------------------
-- Interrupt handlers
-- ---------------------------------------------------------------------------

def timerHandler (l : Layout) : Handler Stats := fun _ _ => do
  writeWord l.timer.sr (~~~Timer.uif)
  writeWord l.adc.cr2 (Adc.adon ||| Adc.swstart)

def publish (l : Layout) (sample : UInt32) : Isr Stats Unit := do
  let buffer := l.bufferAddress txBuffer
  let cs ← readWord buffer
  if Can.Word.codeOf cs = Can.Code.txInactive then
    writeWord (buffer + 4) (Can.Word.standardId sampleId)
    writeWord (buffer + 8) (sample <<< 16)
    writeWord buffer (Can.Word.cs Can.Code.txData 2)

def adcHandler (l : Layout) : Handler Stats := fun _ _ => do
  let word ← readWord l.adc.dr
  let sample := word &&& 0xFFF
  call (.update fun st => { st with lastSample := sample, samples := st.samples + 1 })
  l.publish sample

/-- Take the setpoint out of a received frame and make the buffer ready for the next. -/
def receiveSetpoint (l : Layout) : Isr Stats Unit := do
  let buffer := l.bufferAddress rxBuffer
  let data ← readWord (buffer + 8)
  call (.update fun st => { st with setpoint := data >>> 16 })
  writeWord buffer (Can.Word.cs Can.Code.rxEmpty 0)

def canHandler (l : Layout) : Handler Stats := fun _ _ => do
  let flags ← readWord (l.canBase + Can.Offset.iflag1)
  if anySet flags rxFlag then l.receiveSetpoint
  if anySet flags txFlag then
    call (.update fun st => { st with published := st.published + 1 })
  writeWord (l.canBase + Can.Offset.iflag1) flags

-- ---------------------------------------------------------------------------
-- Console
-- ---------------------------------------------------------------------------

/-- Send one byte. The transmitter is always ready, so firmware that found it was not would poll
for ever. -/
def putByte (l : Layout) (byte : UInt8) : Task Stats Unit := do
  let status ← readWord l.console.sr
  if anySet status Uart.txe then writeWord l.console.dr byte.toUInt32 else .hang

def print (l : Layout) (text : String) : Task Stats Unit :=
  text.toUTF8.toList.forM l.putByte

-- ---------------------------------------------------------------------------
-- Set-up
-- ---------------------------------------------------------------------------

def setUpConsole (l : Layout) : Task Stats Unit := do
  writeWord l.console.brr 0x1A1
  /- The UART and its transmitter are enabled. -/
  writeWord l.console.cr1 0x2008
  l.print "chamber: boot\r\n"

def setUpTimer (l : Layout) : Task Stats Unit := do
  writeWord l.timer.psc 999
  writeWord l.timer.arr 99
  writeWord l.timer.dier Timer.uie
  modifyWord l.timer.cr1 0 Timer.cen

def setUpAdc (l : Layout) : Task Stats Unit := do
  writeWord l.adc.sqr3 0
  writeWord l.adc.cr1 Adc.eocie
  writeWord l.adc.cr2 Adc.adon

/-- Leave the freeze mode with sixteen message buffers, one of them for setpoints and one for
samples. -/
def setUpCan (l : Layout) : Task Stats Unit := do
  writeWord (l.canBase + Can.Offset.mcr) 0x0F
  writeWord (l.canBase + Can.Offset.globalMask) (Can.Word.standardId 0x7FF)
  writeWord (l.bufferAddress rxBuffer + 4) (Can.Word.standardId setpointId)
  writeWord (l.bufferAddress rxBuffer) (Can.Word.cs Can.Code.rxEmpty 0)
  writeWord (l.bufferAddress txBuffer) (Can.Word.cs Can.Code.txInactive 0)
  writeWord (l.canBase + Can.Offset.imask1) (rxFlag ||| txFlag)

def installHandlers : List (UInt32 × Handler Stats) → Task Stats Bool
  | [] => pure true
  | (line, handler) :: rest => do
    match ← Task.setHandler line handler with
    | .ok _ => installHandlers rest
    | .error _ => pure false

def enableLine (l : Layout) (line : UInt32) : Task Stats Unit :=
  writeWord (l.enableBase + (line / 32).toUInt64 * 4) (1 <<< (line % 32))

/-- Everything up to the first wait. Firmware whose handlers are refused ends. -/
def setup (l : Layout) : Task Stats Bool := do
  l.setUpConsole
  l.setUpTimer
  l.setUpAdc
  l.setUpCan
  let installed ← installHandlers
    [(l.timerLine, l.timerHandler), (l.adcLine, l.adcHandler), (l.canLine, l.canHandler)]
  if !installed then pure false
  else
    l.enableLine l.timerLine
    l.enableLine l.adcLine
    l.enableLine l.canLine
    let now ← call .ticks
    call (.update fun st => { st with ready := true, nextStatus := now + l.statusEvery })
    pure true

-- ---------------------------------------------------------------------------
-- Main loop
-- ---------------------------------------------------------------------------

def statusLine (tick : UInt64) (st : Stats) : String :=
  "t=" ++ toString tick.toNat ++ " temp=" ++ toString st.lastSample.toNat ++ " sp=" ++
    toString st.setpoint.toNat ++ "\r\n"

/-- Wait for an interrupt, and report if it is time to. -/
def pass (l : Layout) : Task Stats Bool := do
  if !(← Task.waitForInterrupt) then pure false
  else
    let now ← call .ticks
    let st ← call .memory
    if st.nextStatus ≤ now then
      call (.update fun st => { st with nextStatus := st.nextStatus + l.statusEvery })
      l.print (statusLine now st)
    pure true

end Layout

def firmware (l : Layout) : Firmware Stats := { setup := l.setup, pass := l.pass }

end BoardSim.Demo
