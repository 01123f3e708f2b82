/-!
# Marker octets

The octets that tell packets and length prefixes apart by standing first.
-/
namespace SqlWire.Marker

/-- Begins a packet that reports success. -/
def ok : UInt8 := 0x00

/-- Begins a packet that reports an error. -/
def err : UInt8 := 0xFF

/-- Begins the short packet that ends a list of packets. -/
def eof : UInt8 := 0xFE

/-- Stands for an absent value where a length is expected. -/
def null : UInt8 := 0xFB

def length2 : UInt8 := 0xFC

def length3 : UInt8 := 0xFD

def length8 : UInt8 := 0xFE

/-- How many octets hold the length that this octet announces. -/
def lengthOctets (lead : UInt8) : Option Nat :=
  if lead = length2 then some 2
  else if lead = length3 then some 3
  else if lead = length8 then some 8
  else none

/-- Begins a statement that the server is to run. -/
def query : UInt8 := 0x03

/-- A longer packet that begins with `eof` holds data. -/
def eofMaxLength : Nat := 5

/-- The octet begins the payload. -/
def leads (marker : UInt8) (payload : List UInt8) : Bool := payload.head? == some marker

def isOk (payload : List UInt8) : Bool := leads ok payload

def isErr (payload : List UInt8) : Bool := leads err payload

/-- The payload ends a list: it begins with the marker and is too short for a length of eight
octets. -/
def isEof (payload : List UInt8) : Bool :=
  leads eof payload && (payload.drop eofMaxLength).isEmpty

/-- What a hex dump calls a payload that begins with this octet. -/
def name (octet : Int) : String :=
  if octet = ok.toNat then "OK"
  else if octet = err.toNat then "ERR"
  else if octet = eof.toNat then "EOF"
  else if octet = null.toNat then "LOCAL_INFILE"
  else ""

end SqlWire.Marker
