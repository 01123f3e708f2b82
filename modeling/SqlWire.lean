import SqlWire.Answer
import SqlWire.Authentication
import SqlWire.Binary64
import SqlWire.Bytes
import SqlWire.Capability
import SqlWire.Charset
import SqlWire.Connection
import SqlWire.Console
import SqlWire.Datum
import SqlWire.Failure
import SqlWire.FieldType
import SqlWire.FileTree
import SqlWire.Frame
import SqlWire.HexDump
import SqlWire.Ini
import SqlWire.Journal
import SqlWire.LogFiles
import SqlWire.Main
import SqlWire.Message
import SqlWire.Message.Column
import SqlWire.Message.Greeting
import SqlWire.Message.Login
import SqlWire.Message.Report
import SqlWire.Password
import SqlWire.QueryResult
import SqlWire.Session
import SqlWire.Settings
import SqlWire.Sha1
import SqlWire.Stateful
import SqlWire.Statement
import SqlWire.Text.Blank
import SqlWire.Text.Case
import SqlWire.Text.Digit
import SqlWire.Text.Hex
import SqlWire.Text.Letter
import SqlWire.Text.Numeral
import SqlWire.Text.Printable
import SqlWire.Text.Quoted
import SqlWire.Text.Ranges
import SqlWire.Text.Split
import SqlWire.Text.Utf8
import SqlWire.Text.Wording
import SqlWire.Transport
import SqlWire.Url
import SqlWire.Wire.Cursor
import SqlWire.Wire.Encoding
import SqlWire.Wire.Marker
import SqlWire.Wire.SignedCursor
import SqlWire.Proofs.Delivery
import SqlWire.Proofs.Framing
import SqlWire.Proofs.Utf8
import SqlWire.Proofs.Decoding
import SqlWire.Proofs.Contained
import SqlWire.Proofs.Delimited
import SqlWire.Proofs.Course
import SqlWire.Proofs.Grammar
import SqlWire.Proofs.ResultSet
import SqlWire.Proofs.SelfDelimiting
import SqlWire.Proofs.Listening
import SqlWire.Proofs.Conversation
import SqlWire.Proofs.Handshake
import SqlWire.Proofs.Hostile
import SqlWire.Proofs.Lifecycle
import SqlWire.Proofs.LoginPacket
import SqlWire.Proofs.Scramble
import SqlWire.Proofs.Stream
import SqlWire.Proofs.Sequence
import SqlWire.Proofs.PacketList
import SqlWire.Proofs.Agree
import SqlWire.Proofs.Pieces
import SqlWire.Proofs.ErrPacket
import SqlWire.Proofs.Refusal
import SqlWire.Proofs.Accessors
import SqlWire.Proofs.Outbound
import SqlWire.Proofs.Secrecy
import SqlWire.Proofs.Twins
import SqlWire.Proofs.Dumps
import SqlWire.Proofs.Observer
import SqlWire.Proofs.Branches
import SqlWire.Proofs.Continuation
import SqlWire.Proofs.Truncation
import SqlWire.Proofs.GreetingPacket
import SqlWire.Proofs.GreetingCut
import SqlWire.Proofs.RowsAndColumns
import SqlWire.Proofs.Ranges
import SqlWire.Proofs.LoginIntegrity
import SqlWire.Proofs.Reports
import SqlWire.Proofs.Reload
import SqlWire.Proofs.LogFiles
import SqlWire.Proofs.CommandLine
import SqlWire.Proofs.Lengths
import SqlWire.Proofs.CursorRuns
import SqlWire.Proofs.ReportCut
import SqlWire.Proofs.NormalForm
import SqlWire.Proofs.FixedWidth
import SqlWire.Proofs.Ascii
import SqlWire.Proofs.Cuts
import SqlWire.Proofs.Numerals
import SqlWire.Proofs.DumpReading
import SqlWire.Proofs.UrlSettings
import SqlWire.Proofs.IniText
import SqlWire.Proofs.IniSettings
