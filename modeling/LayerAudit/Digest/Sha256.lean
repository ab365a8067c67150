/-!
The 256-bit secure hash of a byte string, and its hexadecimal text.
The message is padded to whole blocks of 64 bytes; each block turns the eight-word state by 64 rounds.
-/

namespace LayerAudit.Digest

/-- The eight words of the running state. -/
structure State where
  a : UInt32
  b : UInt32
  c : UInt32
  d : UInt32
  e : UInt32
  f : UInt32
  g : UInt32
  h : UInt32
  deriving Inhabited

/-- The state before the first block. -/
def State.initial : State :=
  ⟨0x6a09e667, 0xbb67ae85, 0x3c6ef372, 0xa54ff53a, 0x510e527f, 0x9b05688c, 0x1f83d9ab, 0x5be0cd19⟩

/-- The constant of each round. -/
def roundConstants : Array UInt32 := #[
  0x428a2f98, 0x71374491, 0xb5c0fbcf, 0xe9b5dba5, 0x3956c25b, 0x59f111f1, 0x923f82a4, 0xab1c5ed5,
  0xd807aa98, 0x12835b01, 0x243185be, 0x550c7dc3, 0x72be5d74, 0x80deb1fe, 0x9bdc06a7, 0xc19bf174,
  0xe49b69c1, 0xefbe4786, 0x0fc19dc6, 0x240ca1cc, 0x2de92c6f, 0x4a7484aa, 0x5cb0a9dc, 0x76f988da,
  0x983e5152, 0xa831c66d, 0xb00327c8, 0xbf597fc7, 0xc6e00bf3, 0xd5a79147, 0x06ca6351, 0x14292967,
  0x27b70a85, 0x2e1b2138, 0x4d2c6dfc, 0x53380d13, 0x650a7354, 0x766a0abb, 0x81c2c92e, 0x92722c85,
  0xa2bfe8a1, 0xa81a664b, 0xc24b8b70, 0xc76c51a3, 0xd192e819, 0xd6990624, 0xf40e3585, 0x106aa070,
  0x19a4c116, 0x1e376c08, 0x2748774c, 0x34b0bcb5, 0x391c0cb3, 0x4ed8aa4a, 0x5b9cca4f, 0x682e6ff3,
  0x748f82ee, 0x78a5636f, 0x84c87814, 0x8cc70208, 0x90befffa, 0xa4506ceb, 0xbef9a3f7, 0xc67178f2]

/-- A word turned right by a number of bits. -/
def turn (x : UInt32) (n : UInt32) : UInt32 := (x >>> n) ||| (x <<< (32 - n))

/-- The eight bytes of a number, the highest first. -/
def wideBytes (n : Nat) : List UInt8 :=
  (List.range 8).map fun i => UInt8.ofNat (n >>> (8 * (7 - i)))

/-- The message followed by one set bit, zeros up to the last eight bytes of a block, and its length in bits. -/
def padded (message : ByteArray) : ByteArray :=
  let zeros := (119 - message.size % 64) % 64
  let tail := (0x80 : UInt8) :: List.replicate zeros 0 ++ wideBytes (message.size * 8)
  tail.foldl ByteArray.push message

/-- The word of four bytes from a place on. -/
def wordAt (bytes : ByteArray) (place : Nat) : UInt32 :=
  let byte (i : Nat) : UInt32 := if h : i < bytes.size then bytes[i].toUInt32 else 0
  (byte place <<< 24) ||| (byte (place + 1) <<< 16) ||| (byte (place + 2) <<< 8) ||| byte (place + 3)

/-- One more word of a block's schedule, made from the words before it. -/
def extend (words : Array UInt32) : Array UInt32 :=
  -- Counted back from the end, since the schedule grows by one word at a time.
  let at_ (back : Nat) : UInt32 := words.getD (words.size - back) 0
  let x := at_ 15
  let y := at_ 2
  let low := turn x 7 ^^^ turn x 18 ^^^ (x >>> 3)
  let high := turn y 17 ^^^ turn y 19 ^^^ (y >>> 10)
  words.push (at_ 16 + low + at_ 7 + high)

/-- The 64 words of the block that starts at a place. -/
def schedule (bytes : ByteArray) (place : Nat) : Array UInt32 :=
  let first := (Array.range 16).map fun i => wordAt bytes (place + 4 * i)
  (List.range 48).foldl (fun words _ => extend words) first

/-- One round of the state. -/
def round (s : State) (constant word : UInt32) : State :=
  -- The letters take turns: each word moves on by one place, and only two of them get new values.
  let high := turn s.e 6 ^^^ turn s.e 11 ^^^ turn s.e 25
  let choice := (s.e &&& s.f) ^^^ (~~~s.e &&& s.g)
  let x := s.h + high + choice + constant + word
  let low := turn s.a 2 ^^^ turn s.a 13 ^^^ turn s.a 22
  let majority := (s.a &&& s.b) ^^^ (s.a &&& s.c) ^^^ (s.b &&& s.c)
  ⟨x + low + majority, s.a, s.b, s.c, s.d + x, s.e, s.f, s.g⟩

/-- The state after the block that starts at a place. -/
def absorb (bytes : ByteArray) (s : State) (place : Nat) : State :=
  let words := schedule bytes place
  let t := (List.range 64).foldl (fun t i => round t (roundConstants.getD i 0) (words.getD i 0)) s
  ⟨s.a + t.a, s.b + t.b, s.c + t.c, s.d + t.d, s.e + t.e, s.f + t.f, s.g + t.g, s.h + t.h⟩

/-- The eight words of a message's hash. -/
def words (message : ByteArray) : List UInt32 :=
  let bytes := padded message
  let s := (List.range (bytes.size / 64)).foldl (fun s i => absorb bytes s (64 * i)) State.initial
  [s.a, s.b, s.c, s.d, s.e, s.f, s.g, s.h]

/-- The hexadecimal digit of a number below sixteen. -/
def hexDigit (n : Nat) : Char :=
  if n < 10 then Char.ofNat (48 + n) else Char.ofNat (87 + n)

/-- The eight hexadecimal digits of a word. -/
def hexWord (w : UInt32) : List Char :=
  (List.range 8).map fun i => hexDigit ((w.toNat >>> (4 * (7 - i))) % 16)

/-- The hash of a byte string as 64 small hexadecimal digits. -/
def sha256 (message : ByteArray) : String :=
  String.ofList ((words message).flatMap hexWord)

end LayerAudit.Digest
