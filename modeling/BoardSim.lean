import BoardSim.Access
import BoardSim.Board.Build
import BoardSim.Board.Descriptor
import BoardSim.Board.Extra
import BoardSim.Board.GrowthChamber
import BoardSim.Board.Reader
import BoardSim.Board.Size
import BoardSim.Bus.AddressMap
import BoardSim.Bus.Basic
import BoardSim.Can.Controller
import BoardSim.Can.Frame
import BoardSim.Command.Options
import BoardSim.Command.Run
import BoardSim.Command.Summary
import BoardSim.Command.Value
import BoardSim.Decimal.Binary
import BoardSim.Decimal.Reader
import BoardSim.Decimal.Shortest
import BoardSim.Demo.Firmware
import BoardSim.Demo.Layout
import BoardSim.Device
import BoardSim.Directory
import BoardSim.Error
import BoardSim.Firmware.Call
import BoardSim.Firmware.Handler
import BoardSim.Firmware.Task
import BoardSim.Interrupt.Controller
import BoardSim.Interrupt.LineSet
import BoardSim.Interrupt.View
import BoardSim.Json.Lexeme
import BoardSim.Json.Number
import BoardSim.Json.Reader
import BoardSim.Json.Skip
import BoardSim.Json.Value
import BoardSim.Json.Writer
import BoardSim.Main
import BoardSim.Observer.Basic
import BoardSim.Outline
import BoardSim.Peripheral
import BoardSim.Peripheral.Adc
import BoardSim.Peripheral.Rtc
import BoardSim.Peripheral.Scratch
import BoardSim.Peripheral.Spi
import BoardSim.Peripheral.SysTick
import BoardSim.Peripheral.Timer
import BoardSim.Peripheral.Uart
import BoardSim.Proofs.Interrupt.Event
import BoardSim.Proofs.Interrupt.Recording
import BoardSim.Proofs.Peripheral.Access
import BoardSim.Proofs.Simulator.Dispatch
import BoardSim.Proofs.Simulator.Serving
import BoardSim.Register
import BoardSim.Simulator.Basic
import BoardSim.Simulator.Lifecycle
import BoardSim.Simulator.Tick
import BoardSim.Snapshot
import BoardSim.Text.Class
import BoardSim.Text.Duration
import BoardSim.Text.Hex
import BoardSim.Text.Integer
import BoardSim.Text.Quoted
import BoardSim.Text.Visible
import BoardSim.TickClock
import BoardSim.Yaml.Cursor
import BoardSim.Yaml.Node
import BoardSim.Yaml.Reading
import BoardSim.Yaml.Scalar
import BoardSim.Yaml.Tag
import BoardSim.Yaml.Token
import BoardSim.Yaml.Token.Lexer
import BoardSim.Yaml.Token.Scalar
import BoardSim.Yaml.Token.Tag
import BoardSim.Proofs.Simulator.Tick
import BoardSim.Proofs.Simulator.Run
import BoardSim.Proofs.Simulator.Delivery
import BoardSim.Proofs.Peripheral.ByteMemory
import BoardSim.Proofs.Bus.Routing
import BoardSim.Proofs.Peripheral.Reach
import BoardSim.Proofs.Interrupt.View
import BoardSim.Proofs.Interrupt.Scan
import BoardSim.Proofs.Interrupt.LinePair
import BoardSim.Proofs.Can.Buffers
import BoardSim.Proofs.Can.Run
import BoardSim.Proofs.Can.Mode
import BoardSim.Proofs.Can.Traffic
import BoardSim.Proofs.Peripheral.Bits
import BoardSim.Proofs.Peripheral.Countdown
import BoardSim.Proofs.Rtc.Cycle
import BoardSim.Proofs.Bus.Registration
import BoardSim.Proofs.Bus.Word
import BoardSim.Proofs.Board.Build
import BoardSim.Proofs.Board.Address
import BoardSim.Proofs.Simulator.Program
import BoardSim.Proofs.Demo.Pipeline
import BoardSim.Proofs.Demo.Clocked
import BoardSim.Proofs.Demo.Mailbox
import BoardSim.Proofs.Demo.Chamber
import BoardSim.Proofs.Demo.Carrier
import BoardSim.Proofs.Demo.Console
import BoardSim.Proofs.Demo.Station
import BoardSim.Proofs.Demo.Lines
import BoardSim.Proofs.Demo.Tick
import BoardSim.Proofs.Demo.Thread
import BoardSim.Proofs.Demo.Setup
import BoardSim.Proofs.Demo.Boot
import BoardSim.Proofs.Demo.Sampling
import BoardSim.Proofs.Demo.Setpoint
import BoardSim.Proofs.Peripheral.Operation
import BoardSim.Proofs.Uart.Stream
import BoardSim.Proofs.Board.Acceptance
import BoardSim.Proofs.Simulator.Devices
import BoardSim.Proofs.Peripheral.Clock
import BoardSim.Proofs.Board.Pace
import BoardSim.Proofs.Board.ClockRange
import BoardSim.Proofs.Can.Reception
import BoardSim.Proofs.Simulator.Frame
import BoardSim.Proofs.Observer.Occasion
import BoardSim.Proofs.Simulator.Telling
import BoardSim.Proofs.Firmware.Looping
import BoardSim.Proofs.Simulator.Orderly
import BoardSim.Proofs.Simulator.Lifecycle
import BoardSim.Proofs.Simulator.Interplay
import BoardSim.Proofs.Simulator.Wake
import BoardSim.Proofs.Can.Transmission
import BoardSim.Proofs.Can.Filter
import BoardSim.Proofs.Can.RoundTrip
import BoardSim.Proofs.Adc.Completion
import BoardSim.Proofs.Rtc.Halves
import BoardSim.Proofs.SysTick.Cycle
import BoardSim.Proofs.Timer.Count
import BoardSim.Proofs.Timer.Run
import BoardSim.Proofs.Timer.FreeRunning
import BoardSim.Proofs.Timer.Pulse
import BoardSim.Proofs.Timer.Prescaler
import BoardSim.Proofs.Peripheral.Pieces
import BoardSim.Proofs.Adc.Conversion
import BoardSim.Proofs.Peripheral.ClearOnRead
import BoardSim.Proofs.Bus.Confinement
import BoardSim.Proofs.Rtc.Protection
import BoardSim.Proofs.Peripheral.Drift
import BoardSim.Proofs.Peripheral.ReadFlag
import BoardSim.Proofs.Command.FrameText
import BoardSim.Proofs.Command.Rendering
import BoardSim.Proofs.Spi.Transfer
