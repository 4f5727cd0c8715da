/-! # The 160-bit secure hash

The digest of a byte string by the secure hash standard's first function, written in hexadecimal.
Five words are folded over the padded message, one block of sixty-four bytes at a time; a round
function and a constant belong to each twenty of the eighty rounds.
-/
namespace TableGraph.Digest

structure Words where
  a : UInt32
  b : UInt32
  c : UInt32
  d : UInt32
  e : UInt32

def start : Words := ⟨0x67452301, 0xefcdab89, 0x98badcfe, 0x10325476, 0xc3d2e1f0⟩

def rotate (x n : UInt32) : UInt32 := (x <<< n) ||| (x >>> (32 - n))

/-- The bytes of a number, most significant first. -/
def bigEndian (width n : Nat) : List UInt8 :=
  (List.range width).reverse.map fun i => UInt8.ofNat (n / Nat.pow 256 i)

/-- The message, a one bit, zeros to eight bytes short of a block, and the length in bits. -/
def padded (message : List UInt8) : List UInt8 :=
  message ++ 0x80 :: List.replicate ((119 - message.length % 64) % 64) 0 ++
    bigEndian 8 (8 * message.length)

def wordAt (block : List UInt8) (i : Nat) : UInt32 :=
  ((block.drop (4 * i)).take 4).foldl (fun w b => w <<< 8 ||| b.toUInt32) 0

def schedule (block : List UInt8) : Array UInt32 :=
  (List.range 64).foldl
    (fun w i =>
      let old (j : Nat) := w.getD (i + j) 0
      w.push (rotate (old 13 ^^^ old 8 ^^^ old 2 ^^^ old 0) 1))
    ((List.range 16).map (wordAt block)).toArray

def mix (round : Nat) (b c d : UInt32) : UInt32 :=
  if round < 20 then (b &&& c) ||| (~~~b &&& d)
  else if round < 40 then b ^^^ c ^^^ d
  else if round < 60 then (b &&& c) ||| (b &&& d) ||| (c &&& d)
  else b ^^^ c ^^^ d

def constant (round : Nat) : UInt32 :=
  if round < 20 then 0x5a827999
  else if round < 40 then 0x6ed9eba1
  else if round < 60 then 0x8f1bbcdc
  else 0xca62c1d6

def round (w : Array UInt32) (s : Words) (i : Nat) : Words :=
  ⟨rotate s.a 5 + mix i s.b s.c s.d + s.e + constant i + w.getD i 0, s.a, rotate s.b 30, s.c, s.d⟩

def compress (s : Words) (block : List UInt8) : Words :=
  let t := (List.range 80).foldl (round (schedule block)) s
  ⟨s.a + t.a, s.b + t.b, s.c + t.c, s.d + t.d, s.e + t.e⟩

def compressAll (message : List UInt8) : Words :=
  (List.range (message.length / 64)).foldl (fun s i => compress s ((message.drop (64 * i)).take 64)) start

def hexByte (b : UInt8) : List Char := [Nat.digitChar (b.toNat / 16), Nat.digitChar (b.toNat % 16)]

def hex (bytes : List UInt8) : List Char := bytes.flatMap hexByte

/-- The digest of a message, forty hexadecimal digits. -/
def ofBytes (message : List UInt8) : List Char :=
  let s := compressAll (padded message)
  hex ([s.a, s.b, s.c, s.d, s.e].flatMap fun w => bigEndian 4 w.toNat)

end TableGraph.Digest
