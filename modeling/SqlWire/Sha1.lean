import SqlWire.Bytes
/-!
# SHA-1

The secure hash of an octet string, in 20 octets.
-/
namespace SqlWire.Sha1

structure State where
  a : UInt32
  b : UInt32
  c : UInt32
  d : UInt32
  e : UInt32

def initial : State := ⟨0x67452301, 0xEFCDAB89, 0x98BADCFE, 0x10325476, 0xC3D2E1F0⟩

def rotateLeft (x : UInt32) (n : UInt32) : UInt32 := (x <<< n) ||| (x >>> (32 - n))

/-- Four octets as a word, highest first. -/
def word (b : Bytes) : UInt32 := b.foldl (fun n octet => (n <<< 8) ||| octet.toUInt32) 0

/-- A word as four octets, highest first. -/
def octets (w : UInt32) : Bytes :=
  [(w >>> 24).toUInt8, (w >>> 16).toUInt8, (w >>> 8).toUInt8, w.toUInt8]

/-- The 80 words made of a block of 64 octets, newest first. -/
def schedule (block : Bytes) : List UInt32 :=
  let first := (List.range 16).map fun i => word ((block.drop (4 * i)).take 4)
  (List.range 64).foldl (fun ws _ =>
    match ws with
    | _ :: _ :: w3 :: _ :: _ :: _ :: _ :: w8 :: _ :: _ :: _ :: _ :: _ :: w14 :: _ :: w16 :: _ =>
      rotateLeft (w3 ^^^ w8 ^^^ w14 ^^^ w16) 1 :: ws
    | _ => ws) first.reverse

/-- One of the 80 rounds. -/
def round (s : State) (i : Nat) (w : UInt32) : State :=
  let (f, k) : UInt32 × UInt32 :=
    if i < 20 then ((s.b &&& s.c) ||| (~~~s.b &&& s.d), 0x5A827999)
    else if i < 40 then (s.b ^^^ s.c ^^^ s.d, 0x6ED9EBA1)
    else if i < 60 then ((s.b &&& s.c) ||| (s.b &&& s.d) ||| (s.c &&& s.d), 0x8F1BBCDC)
    else (s.b ^^^ s.c ^^^ s.d, 0xCA62C1D6)
  ⟨rotateLeft s.a 5 + f + s.e + k + w, s.a, rotateLeft s.b 30, s.c, s.d⟩

/-- Takes in a block of 64 octets. -/
def absorb (s : State) (block : Bytes) : State :=
  let (t, _) := (schedule block).reverse.foldl (fun (t, i) w => (round t i w, i + 1)) (s, 0)
  ⟨s.a + t.a, s.b + t.b, s.c + t.c, s.d + t.d, s.e + t.e⟩

def absorbAll (s : State) (b : Bytes) : State :=
  if _h : b = [] then s else absorbAll (absorb s (b.take 64)) (b.drop 64)
termination_by b.length
decreasing_by
  have := List.length_pos_iff.2 ‹¬b = []›
  simp only [List.length_drop]
  omega

/-- The octets with a one bit, zeros and the length in bits behind them, up to whole blocks. -/
def pad (b : Bytes) : Bytes :=
  let n := b.length
  b ++ 0x80 :: List.replicate ((119 - n % 64) % 64) 0 ++ (Bytes.ofInt 8 (8 * n : Nat)).reverse

def digest (b : Bytes) : Bytes :=
  let s := absorbAll initial (pad b)
  octets s.a ++ octets s.b ++ octets s.c ++ octets s.d ++ octets s.e

@[simp] theorem length_digest (b : Bytes) : (digest b).length = 20 := rfl

end SqlWire.Sha1
