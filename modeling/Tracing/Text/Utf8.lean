/-!
Texts as bytes and bytes as texts. Bytes that are no text of their own are read as replacement
characters: one for each longest run that starts a character and breaks off, and one for each byte
that starts none.
-/

set_option autoImplicit false
set_option relaxedAutoImplicit false

namespace Tracing.Text

def bytesOf (c : Char) : List UInt8 := (String.singleton c).toUTF8.toList

def replacement : Char := '\uFFFD'

/-- What a byte at the start of a character asks for: how many bytes follow, which bounds the first
of them has, and what the byte gives to the character. -/
def lead? (b : Nat) : Option (Nat × Nat × Nat × Nat) :=
  if b < 0x80 then some (0, 0x80, 0xBF, b)
  else if b < 0xC2 then none
  else if b < 0xE0 then some (1, 0x80, 0xBF, b - 0xC0)
  else if b = 0xE0 then some (2, 0xA0, 0xBF, 0)
  else if b = 0xED then some (2, 0x80, 0x9F, 0xD)
  else if b < 0xF0 then some (2, 0x80, 0xBF, b - 0xE0)
  else if b = 0xF0 then some (3, 0x90, 0xBF, 0)
  else if b < 0xF4 then some (3, 0x80, 0xBF, b - 0xF0)
  else if b = 0xF4 then some (3, 0x80, 0x8F, 4)
  else none

/-- Reads bytes as text. `owed` bytes are missing from the character under way, `code` is what it
has so far, and the next byte has to lie between `low` and `high`. -/
def readBytes (owed low high code : Nat) : List UInt8 → List Char
  | [] => if owed = 0 then [] else [replacement]
  | b :: rest =>
    let n := b.toNat
    if 0 < owed ∧ low ≤ n ∧ n ≤ high then
      let code := code * 64 + (n - 0x80)
      if owed = 1 then Char.ofNat code :: readBytes 0 0x80 0xBF 0 rest
      else readBytes (owed - 1) 0x80 0xBF code rest
    else
      let broken := if owed = 0 then [] else [replacement]
      match lead? n with
      | none => broken ++ replacement :: readBytes 0 0x80 0xBF 0 rest
      | some (0, _, _, code) => broken ++ Char.ofNat code :: readBytes 0 0x80 0xBF 0 rest
      | some (owed, low, high, code) => broken ++ readBytes owed low high code rest

def ofBytes (bytes : List UInt8) : List Char := readBytes 0 0x80 0xBF 0 bytes

/-- The text that bytes are, none where they are no text. -/
def ofBytes? (bytes : List UInt8) : Option String := String.fromUTF8? (ByteArray.mk bytes.toArray)

end Tracing.Text
