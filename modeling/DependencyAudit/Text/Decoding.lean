/-!
Reading bytes as text, in UTF-8 or in code page 437.

`Utf8.decode` gives, in order, the characters of the text and `none` for every ill-formed stretch of
bytes. Such a stretch is as long as the bytes still form the start of some character, so a byte that
cannot go on is looked at again as a possible first byte. `Utf8.decodeStrict` accepts a text without
such stretches only; `Utf8.decodeLenient` puts the replacement character U+FFFD in the place of
each.

Old archive directories are ASCII in the lower half of their bytes and code page 437 in the upper
half, where every byte is a character.
-/

namespace DependencyAudit.Text

namespace Utf8

/-- A character of which some bytes are read: how many are missing, the bounds of the next one,
and the bits so far. -/
structure Pending where
  missing : Nat
  low : Nat
  high : Nat
  bits : Nat

/-- What a byte says where a character may start: a character of its own, the start of a longer
one, or (`none`) nothing well-formed. -/
def lead (b : Nat) : Option (Char ⊕ Pending) :=
  if b < 0x80 then some (.inl (Char.ofNat b))
  else if b < 0xC2 then none
  else if b < 0xE0 then some (.inr ⟨1, 0x80, 0xBF, b - 0xC0⟩)
  else if b = 0xE0 then some (.inr ⟨2, 0xA0, 0xBF, 0⟩)
  else if b = 0xED then some (.inr ⟨2, 0x80, 0x9F, 0xD⟩)
  else if b < 0xF0 then some (.inr ⟨2, 0x80, 0xBF, b - 0xE0⟩)
  else if b = 0xF0 then some (.inr ⟨3, 0x90, 0xBF, 0⟩)
  else if b < 0xF4 then some (.inr ⟨3, 0x80, 0xBF, b - 0xF0⟩)
  else if b = 0xF4 then some (.inr ⟨3, 0x80, 0x8F, 4⟩)
  else none

/-- Reads on with a byte where a character may start. -/
def start (b : Nat) : List (Option Char) × Option Pending :=
  match lead b with
  | none => ([none], none)
  | some (.inl c) => ([some c], none)
  | some (.inr p) => ([], some p)

/-- Reads one byte: the characters it completes, and what is pending after it. -/
def step (pending : Option Pending) (b : Nat) : List (Option Char) × Option Pending :=
  match pending with
  | none => start b
  | some p =>
    if p.low ≤ b ∧ b ≤ p.high then
      let bits := p.bits * 64 + (b - 0x80)
      if p.missing ≤ 1 then ([some (Char.ofNat bits)], none)
      else ([], some ⟨p.missing - 1, 0x80, 0xBF, bits⟩)
    else
      let next := start b
      (none :: next.1, next.2)

/-- The characters of the bytes, read on from what is pending. -/
def decodeFrom (pending : Option Pending) : List UInt8 → List (Option Char)
  | [] => if pending.isSome then [none] else []
  | b :: bytes =>
    let next := step pending b.toNat
    next.1 ++ decodeFrom next.2 bytes

/-- The characters of the bytes, with `none` for every ill-formed stretch. -/
def decode (bytes : List UInt8) : List (Option Char) := decodeFrom none bytes

/-- The text of the bytes, if all of it is well-formed. -/
def decodeStrict (bytes : List UInt8) : Option (List Char) := (decode bytes).mapM id

/-- The text of the bytes, with U+FFFD for every ill-formed stretch. -/
def decodeLenient (bytes : List UInt8) : List Char := (decode bytes).map (·.getD '\uFFFD')

end Utf8

namespace CodePage437

/-- The code points of the bytes from 128 on. -/
def upperHalf : List Nat :=
  [0xC7, 0xFC, 0xE9, 0xE2, 0xE4, 0xE0, 0xE5, 0xE7, 0xEA, 0xEB, 0xE8, 0xEF, 0xEE, 0xEC, 0xC4,
   0xC5, 0xC9, 0xE6, 0xC6, 0xF4, 0xF6, 0xF2, 0xFB, 0xF9, 0xFF, 0xD6, 0xDC, 0xA2, 0xA3, 0xA5,
   0x20A7, 0x192, 0xE1, 0xED, 0xF3, 0xFA, 0xF1, 0xD1, 0xAA, 0xBA, 0xBF, 0x2310, 0xAC, 0xBD,
   0xBC, 0xA1, 0xAB, 0xBB, 0x2591, 0x2592, 0x2593, 0x2502, 0x2524, 0x2561, 0x2562, 0x2556,
   0x2555, 0x2563, 0x2551, 0x2557, 0x255D, 0x255C, 0x255B, 0x2510, 0x2514, 0x2534, 0x252C,
   0x251C, 0x2500, 0x253C, 0x255E, 0x255F, 0x255A, 0x2554, 0x2569, 0x2566, 0x2560, 0x2550,
   0x256C, 0x2567, 0x2568, 0x2564, 0x2565, 0x2559, 0x2558, 0x2552, 0x2553, 0x256B, 0x256A,
   0x2518, 0x250C, 0x2588, 0x2584, 0x258C, 0x2590, 0x2580, 0x3B1, 0xDF, 0x393, 0x3C0, 0x3A3,
   0x3C3, 0xB5, 0x3C4, 0x3A6, 0x398, 0x3A9, 0x3B4, 0x221E, 0x3C6, 0x3B5, 0x2229, 0x2261, 0xB1,
   0x2265, 0x2264, 0x2320, 0x2321, 0xF7, 0x2248, 0xB0, 0x2219, 0xB7, 0x221A, 0x207F, 0xB2,
   0x25A0, 0xA0]

def decodeByte (b : UInt8) : Char :=
  if b.toNat < 128 then Char.ofNat b.toNat
  else Char.ofNat (upperHalf.getD (b.toNat - 128) 0xFFFD)

/-- The text of the bytes. -/
def decode (bytes : List UInt8) : List Char := bytes.map decodeByte

end CodePage437

end DependencyAudit.Text
