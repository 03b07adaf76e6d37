import BusProbe.Board.Desktop
import BusProbe.Board.Peripheral
import BusProbe.Bus.Clocked
import BusProbe.Bus.I2c
import BusProbe.Bus.I2c.BitBang
import BusProbe.Bus.Led
import BusProbe.Bus.OneWire
import BusProbe.Bus.Plain
import BusProbe.Bus.Spi
import BusProbe.Bus.Uart
import BusProbe.Main
import BusProbe.Station
import BusProbe.Proofs.Operation.Runs
import BusProbe.Proofs.I2c.Steps
import BusProbe.Proofs.StationRuns
import BusProbe.Proofs.I2c.Release
import BusProbe.Proofs.Line.Division
import BusProbe.Proofs.Line.Printing
import BusProbe.Proofs.Operation.Listing
import BusProbe.Proofs.I2c.Acknowledge
import BusProbe.Proofs.I2c.Transaction
import BusProbe.Proofs.Clocked.Framing
import BusProbe.Proofs.Operation.Framing
import BusProbe.Proofs.Operation.Courses
import BusProbe.Proofs.Operation.Closing
import BusProbe.Proofs.Script.Alike
import BusProbe.Proofs.Operation.Locality
import BusProbe.Proofs.Text.Numerals
import BusProbe.Proofs.Operation.Units
import BusProbe.Proofs.Token.Items
import BusProbe.Proofs.Line.Bracket
import BusProbe.Proofs.Operation.Waiting
import BusProbe.Proofs.I2c.LooseReads
import BusProbe.Proofs.Bus.Release
import BusProbe.Proofs.Uart.Echo
import BusProbe.Proofs.Word.Order
import BusProbe.Proofs.Word.Bytes
import BusProbe.Proofs.Clocked.Loopback
import BusProbe.Proofs.Bus.Shifting
import BusProbe.Proofs.Word.Registers
import BusProbe.Proofs.Led.Buffer
import BusProbe.Proofs.Bus.Ranges
import BusProbe.Proofs.Operation.Bounds
import BusProbe.Proofs.Switchboard.Submitting
import BusProbe.Proofs.Operation.BoardOnly
import BusProbe.Proofs.Operation.Joining
import BusProbe.Proofs.Bus.Sending
import BusProbe.Proofs.Switchboard.Table
import BusProbe.Proofs.Uart.Opening
import BusProbe.Proofs.Text.Encoding
import BusProbe.Proofs.Switchboard.Capacity
import BusProbe.Proofs.Token.Classes
import BusProbe.Proofs.Console.Session
import BusProbe.Proofs.OneWire.Slots
import BusProbe.Proofs.Led.Encoding
import BusProbe.Proofs.Line.Appending
import BusProbe.Proofs.Line.Rereading
import BusProbe.Proofs.Line.Margins
import BusProbe.Proofs.Line.Meaning
import BusProbe.Proofs.Line.Beginning
import BusProbe.Proofs.Line.Insertion
import BusProbe.Proofs.Operation.Counts
import BusProbe.Proofs.Word.Turning
import BusProbe.Proofs.Token.Repeating
import BusProbe.Proofs.Token.Quoting
