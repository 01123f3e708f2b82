/-!
# Capability flags

The bits by which client and server announce what they can do. Flags are integers in two's
complement, so that a negative number has all but finitely many bits set.
-/
namespace SqlWire.Capability

/-! ## Bits of an integer -/

/-- The bits of the first that are not in the second. -/
def without (m n : Nat) : Nat := m ^^^ (m &&& n)

def common : Int → Int → Int
  | .ofNat m, .ofNat n => .ofNat (m &&& n)
  | .ofNat m, .negSucc n => .ofNat (without m n)
  | .negSucc m, .ofNat n => .ofNat (without n m)
  | .negSucc m, .negSucc n => .negSucc (m ||| n)

def union : Int → Int → Int
  | .ofNat m, .ofNat n => .ofNat (m ||| n)
  | .ofNat m, .negSucc n => .negSucc (without n m)
  | .negSucc m, .ofNat n => .negSucc (without m n)
  | .negSucc m, .negSucc n => .negSucc (m &&& n)

/-- All bits of `flag` are among those of `flags`. -/
def announces (flags flag : Int) : Bool := common flags flag == flag

/-! ## The flags this client knows -/

def longPassword : Nat := 0x1
def longFlag : Nat := 0x4
def protocol41 : Nat := 0x200
def secureConnection : Nat := 0x8000
def pluginAuth : Nat := 0x80000

/-- What this client implements, and all it announces. -/
def client : Nat := longPassword ||| longFlag ||| protocol41 ||| secureConnection ||| pluginAuth

end SqlWire.Capability
