/-!
# Field types

The type codes of columns and their names.
-/
namespace SqlWire.FieldType

/-- Text of variable length, which a column has unless it says otherwise. -/
def varString : Nat := 253

/-- The codes that have a name. -/
def names : List (Nat × String) := [
  (0, "DECIMAL"), (1, "TINY"), (2, "SHORT"), (3, "LONG"), (4, "FLOAT"), (5, "DOUBLE"), (6, "NULL"),
  (7, "TIMESTAMP"), (8, "LONGLONG"), (9, "INT24"), (10, "DATE"), (11, "TIME"), (12, "DATETIME"),
  (13, "YEAR"), (14, "NEWDATE"), (15, "VARCHAR"), (16, "BIT"), (245, "JSON"), (246, "NEWDECIMAL"),
  (247, "ENUM"), (248, "SET"), (249, "TINY_BLOB"), (250, "MEDIUM_BLOB"), (251, "LONG_BLOB"),
  (252, "BLOB"), (253, "VAR_STRING"), (254, "STRING"), (255, "GEOMETRY")]

def name (code : Int) : String :=
  ((names.find? fun entry => entry.1 = code).map (·.2)).getD "UNKNOWN"

end SqlWire.FieldType
