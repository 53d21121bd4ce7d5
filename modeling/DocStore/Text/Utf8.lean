/-!
# UTF-8

Characters to bytes and back. `decodeUtf8?` refuses what is not the shortest form of a character,
the surrogates and numbers beyond the last character, so bytes that it accepts have one text.
-/

namespace DocStore.Text

def utf8Char (c : Char) : List UInt8 :=
  let n := c.toNat
  let tail (place : Nat) : UInt8 := UInt8.ofNat (0x80 + n / place % 64)
  if n < 0x80 then [UInt8.ofNat n]
  else if n < 0x800 then [UInt8.ofNat (0xC0 + n / 64), tail 1]
  else if n < 0x10000 then [UInt8.ofNat (0xE0 + n / 4096), tail 64, tail 1]
  else [UInt8.ofNat (0xF0 + n / 262144), tail 4096, tail 64, tail 1]

def utf8 (text : String) : List UInt8 := text.toList.flatMap utf8Char

/-- The character with number `n`, if that needs at least the bytes that `least` needs. -/
def charOf? (least n : Nat) : Option Char :=
  if h : least ≤ n ∧ n.isValidChar then some (Char.ofNatAux n h.2) else none

/-- The six bits of a byte that continues a character. -/
def tailBits? (b : UInt8) : Option Nat :=
  if 0x80 ≤ b ∧ b < 0xC0 then some (b.toNat - 0x80) else none

/-- The characters that bytes stand for, if all of them are well formed. -/
def decodeUtf8? : List UInt8 → Option (List Char)
  | [] => some []
  | a :: rest =>
    if a < 0x80 then do
      let c ← charOf? 0 a.toNat
      let text ← decodeUtf8? rest
      return c :: text
    else if a < 0xC0 then none
    else if a < 0xE0 then
      match rest with
      | b :: rest => do
        let c ← charOf? 0x80 ((a.toNat - 0xC0) * 64 + (← tailBits? b))
        let text ← decodeUtf8? rest
        return c :: text
      | _ => none
    else if a < 0xF0 then
      match rest with
      | b :: d :: rest => do
        let c ← charOf? 0x800 (((a.toNat - 0xE0) * 64 + (← tailBits? b)) * 64 + (← tailBits? d))
        let text ← decodeUtf8? rest
        return c :: text
      | _ => none
    else if a < 0xF8 then
      match rest with
      | b :: d :: e :: rest => do
        let high := ((a.toNat - 0xF0) * 64 + (← tailBits? b)) * 64 + (← tailBits? d)
        let c ← charOf? 0x10000 (high * 64 + (← tailBits? e))
        let text ← decodeUtf8? rest
        return c :: text
      | _ => none
    else none

end DocStore.Text
