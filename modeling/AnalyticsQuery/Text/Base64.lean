/-!
# Text in base64

Each character stands for six bits of the bytes that encode a text.  Characters
that stand for nothing are skipped.  The last bytes are padded to four characters,
and nothing is read after complete padding.
-/

namespace AnalyticsQuery.Text.Base64

/-- The six bits of a character. -/
def sextet? (char : Char) : Option Nat :=
  if 'A' ≤ char ∧ char ≤ 'Z' then some (char.toNat - 'A'.toNat)
  else if 'a' ≤ char ∧ char ≤ 'z' then some (char.toNat - 'a'.toNat + 26)
  else if '0' ≤ char ∧ char ≤ '9' then some (char.toNat - '0'.toNat + 52)
  else if char = '+' then some 62
  else if char = '/' then some 63
  else none

/-- Six-bit groups up to the padding, if that is complete.  `place` counts groups since
the last whole number of bytes, and `pads` marks of padding since the last group. -/
def sextets? (place pads : Nat) : List Char → Option (List Nat)
  | [] => if place = 0 then some [] else none
  | '=' :: rest =>
      if place < 2 then sextets? place pads rest
      else if 4 ≤ place + pads + 1 then some []
      else sextets? place (pads + 1) rest
  | char :: rest =>
      match sextet? char with
      | none => sextets? place pads rest
      | some value => (sextets? ((place + 1) % 4) 0 rest).map (value :: ·)

/-- Bytes of six-bit groups, without the bits that fill up the last group. -/
def bytesOf : List Nat → List UInt8
  | first :: second :: third :: fourth :: rest =>
      UInt8.ofNat (4 * first + second / 16) ::
        UInt8.ofNat (16 * (second % 16) + third / 4) ::
        UInt8.ofNat (64 * (third % 4) + fourth) :: bytesOf rest
  | [first, second, third] =>
      [UInt8.ofNat (4 * first + second / 16), UInt8.ofNat (16 * (second % 16) + third / 4)]
  | [first, second] => [UInt8.ofNat (4 * first + second / 16)]
  | _ => []

/-- The text whose bytes are given, if they are those of a text. -/
def decode? (chars : List Char) : Option String :=
  if chars.all fun char => char.toNat < 0x80 then
    (sextets? 0 0 chars).bind fun groups => String.fromUTF8? ⟨(bytesOf groups).toArray⟩
  else none

end AnalyticsQuery.Text.Base64
