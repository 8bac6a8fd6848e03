/-!
# UTF-8

Characters as bytes and back.

- `Utf8.encode`: the bytes of characters.
- `Utf8.decode`: the characters of bytes, with `none` for each piece that is ill-formed.
- `Utf8.decodeLossy`: the same with the replacement character for each such piece.
- `Utf8.decode?`: the characters of bytes without such a piece.
-/

namespace ClusterWatch.Text.Utf8

/-- The bytes of characters. -/
def encode (cs : List Char) : List UInt8 :=
  cs.flatMap String.utf8EncodeChar

/-- A character of which some bytes were read. -/
structure Pending where
  /-- The number of bytes to come, at least one. -/
  owed : Nat
  /-- The least next byte. -/
  low : Nat
  /-- The greatest next byte. -/
  high : Nat
  /-- The bits so far. -/
  bits : Nat
  deriving DecidableEq

/-- What the first byte of a character leads to: a character, some to come, or an ill-formed
piece. -/
def first (b : Nat) : List (Option Char) × Option Pending :=
  if b ≤ 0x7f then ([some (Char.ofNat b)], none)
  else if 0xc2 ≤ b ∧ b ≤ 0xdf then ([], some ⟨1, 0x80, 0xbf, b % 0x20⟩)
  else if b = 0xe0 then ([], some ⟨2, 0xa0, 0xbf, 0⟩)
  else if b = 0xed then ([], some ⟨2, 0x80, 0x9f, b % 0x10⟩)
  else if 0xe1 ≤ b ∧ b ≤ 0xef then ([], some ⟨2, 0x80, 0xbf, b % 0x10⟩)
  else if b = 0xf0 then ([], some ⟨3, 0x90, 0xbf, 0⟩)
  else if b = 0xf4 then ([], some ⟨3, 0x80, 0x8f, 4⟩)
  else if 0xf1 ≤ b ∧ b ≤ 0xf3 then ([], some ⟨3, 0x80, 0xbf, b % 0x8⟩)
  else ([none], none)

/-- What one more byte leads to. A byte that cannot continue a character begins another. -/
def feed : Option Pending → Nat → List (Option Char) × Option Pending
  | none, b => first b
  | some p, b =>
    if p.low ≤ b ∧ b ≤ p.high then
      let bits := p.bits * 0x40 + b % 0x40
      if p.owed ≤ 1 then ([some (Char.ofNat bits)], none)
      else ([], some ⟨p.owed - 1, 0x80, 0xbf, bits⟩)
    else
      let (found, pending) := first b
      (none :: found, pending)

/-- The characters of bytes after a character of which some bytes were read. -/
def decodeFrom : Option Pending → List UInt8 → List (Option Char)
  | none, [] => []
  | some _, [] => [none]
  | p, b :: rest =>
    let (found, p) := feed p b.toNat
    found ++ decodeFrom p rest

/-- The characters of bytes. -/
def decode (bytes : List UInt8) : List (Option Char) :=
  decodeFrom none bytes

/-- The characters of bytes, with the replacement character for what is ill-formed. -/
def decodeLossy (bytes : List UInt8) : List Char :=
  (decode bytes).map (·.getD '\ufffd')

/-- The characters of well-formed bytes. -/
def decode? (bytes : List UInt8) : Option (List Char) :=
  (decode bytes).mapM id

end ClusterWatch.Text.Utf8
