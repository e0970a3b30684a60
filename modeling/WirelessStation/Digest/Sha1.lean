import WirelessStation.Text.Hex

/-! # SHA-1

The secure hash of FIPS 180-4 with a digest of 160 bits, over octet strings. -/

namespace WirelessStation.Sha1

/-- The words of the running digest. -/
structure Words where
  a : UInt32
  b : UInt32
  c : UInt32
  d : UInt32
  e : UInt32
deriving DecidableEq, Repr

def initial : Words :=
  ⟨0x67452301, 0xEFCDAB89, 0x98BADCFE, 0x10325476, 0xC3D2E1F0⟩

def rotate (x n : UInt32) : UInt32 :=
  (x <<< n) ||| (x >>> (32 - n))

/-- A number in `count` octets, high ones first. -/
def bigEndian (count n : Nat) : Bytes :=
  (List.range count).reverse.map fun i => UInt8.ofNat (n >>> (8 * i))

/-- The message, a one bit, zeros up to 56 octets in the last block, and the length in bits. -/
def pad (message : Bytes) : Bytes :=
  let zeros := (119 - message.length % 64) % 64
  message ++ 0x80 :: List.replicate zeros 0 ++ bigEndian 8 (8 * message.length)

/-- The octets in blocks of 64. -/
def blocks (bs : Bytes) : List Bytes :=
  (List.range (bs.length / 64)).map fun i => (bs.drop (64 * i)).take 64

/-- Word `i` of a block. -/
def word (block : Bytes) (i : Nat) : UInt32 :=
  ((block.drop (4 * i)).take 4).foldl (fun v b => v * 256 + b.toUInt32) 0

/-- The eighty words that a block is spread over. -/
def schedule (block : Bytes) : Array UInt32 :=
  let first := (List.range 16).map (word block) |>.toArray
  (List.range 64).foldl
    (fun w i =>
      let ahead := fun k => w.getD (i + k) 0
      w.push (rotate (ahead 13 ^^^ ahead 8 ^^^ ahead 2 ^^^ ahead 0) 1))
    first

/-- The mixing function and constant of round `t`. -/
def mix (t : Nat) (w : Words) : UInt32 × UInt32 :=
  if t < 20 then ((w.b &&& w.c) ||| (~~~w.b &&& w.d), 0x5A827999)
  else if t < 40 then (w.b ^^^ w.c ^^^ w.d, 0x6ED9EBA1)
  else if t < 60 then ((w.b &&& w.c) ||| (w.b &&& w.d) ||| (w.c &&& w.d), 0x8F1BBCDC)
  else (w.b ^^^ w.c ^^^ w.d, 0xCA62C1D6)

def round (spread : Array UInt32) (w : Words) (t : Nat) : Words :=
  let (f, k) := mix t w
  ⟨rotate w.a 5 + f + w.e + k + spread.getD t 0, w.a, rotate w.b 30, w.c, w.d⟩

/-- Takes one block into the running digest. -/
def compress (w : Words) (block : Bytes) : Words :=
  let v := (List.range 80).foldl (round (schedule block)) w
  ⟨w.a + v.a, w.b + v.b, w.c + v.c, w.d + v.d, w.e + v.e⟩

/-- The twenty octets of the digest. -/
def digest (message : Bytes) : Bytes :=
  let w := (blocks (pad message)).foldl compress initial
  [w.a, w.b, w.c, w.d, w.e].flatMap fun x => bigEndian 4 x.toNat

end WirelessStation.Sha1
