/-!
# Variable-length integers

A natural number is written in groups of seven bits, the lowest first; all bytes but the last have
their top bit set. A reader takes at most ten bytes, and of the tenth only one bit, so that what it
reads fits 64 bits.
-/

namespace AdminPanel.Wire

/-- The bytes of a number, at most `fuel` of them. -/
def varintFrom (n : Nat) : Nat → List UInt8
  | 0 => []
  | fuel + 1 =>
    if n < 128 then [UInt8.ofNat n]
    else UInt8.ofNat (n % 128 + 128) :: varintFrom (n / 128) fuel

/-- The bytes of a number below `2 ^ 64`. -/
def varint (n : Nat) : List UInt8 :=
  varintFrom n 10

/-- Reads a number of at most `room` bytes and gives the bytes behind it. -/
def readVarintFrom : Nat → List UInt8 → Option (Nat × List UInt8)
  | 0, _ => none
  | _ + 1, [] => none
  | room + 1, b :: bs =>
    if room = 0 ∧ 2 ≤ b.toNat then none
    else if b.toNat < 128 then some (b.toNat, bs)
    else (readVarintFrom room bs).map fun (n, rest) => (b.toNat - 128 + 128 * n, rest)

/-- Reads a number and gives the bytes behind it. -/
def readVarint (bs : List UInt8) : Option (Nat × List UInt8) :=
  readVarintFrom 10 bs

/-- The `n` lowest bytes of a number, the lowest first. -/
def littleEndian (value : Nat) : Nat → List UInt8
  | 0 => []
  | n + 1 => UInt8.ofNat (value % 256) :: littleEndian (value / 256) n

/-- The number that bytes write, the lowest first. -/
def ofLittleEndian : List UInt8 → Nat
  | [] => 0
  | b :: bs => b.toNat + 256 * ofLittleEndian bs

end AdminPanel.Wire
