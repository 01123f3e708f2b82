/-!
# The character set of the connection
-/
namespace SqlWire.Charset

/-- The collation that the client asks for: four-octet UTF-8 under its general collation. -/
def utf8mb4GeneralCi : Nat := 45

def encoding : String := "utf8"

end SqlWire.Charset
