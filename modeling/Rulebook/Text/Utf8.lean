/-!
Decoding of UTF-8.

Octets are taken one at a time. A character of several octets first says how many
follow and which range the next one lies in; whatever breaks that is refused, with
the octets it spoils.
-/

namespace Rulebook.Text

/-- What is wrong with a sequence of octets. -/
inductive Utf8Fault where
  | invalidStart
  | invalidContinuation
  | unexpectedEnd
deriving DecidableEq

/-- The wording of a fault. -/
def Utf8Fault.message : Utf8Fault → String
  | .invalidStart => "invalid start byte"
  | .invalidContinuation => "invalid continuation byte"
  | .unexpectedEnd => "unexpected end of data"

/-- A fault, the first octet it concerns, its place, and how many octets are
spoilt. -/
structure Utf8Error where
  fault : Utf8Fault
  octet : UInt8
  start : Nat
  count : Nat
deriving DecidableEq

/-- Two hexadecimal digits. -/
def octetText (octet : UInt8) : String :=
  String.ofList [Nat.digitChar (octet.toNat / 16), Nat.digitChar (octet.toNat % 16)]

/-- The wording of an error. -/
def Utf8Error.message (error : Utf8Error) : String :=
  let place :=
    if error.count = 1 then s!"byte 0x{octetText error.octet} in position {error.start}"
    else s!"bytes in position {error.start}-{error.start + error.count - 1}"
  s!"'utf-8' codec can't decode {place}: {error.fault.message}"

/-- A character under way: its first octet and the place of it, the bits so far,
how many octets are owed, and the range of the next one. -/
structure Partial where
  octet : UInt8
  start : Nat
  bits : Nat
  owed : Nat
  least : Nat
  greatest : Nat

/-- What a first octet of several begins; none if it cannot begin anything. -/
def Partial.begin? (octet : UInt8) (start : Nat) : Option Partial :=
  let b := octet.toNat
  if 0xc2 ≤ b ∧ b ≤ 0xdf then some ⟨octet, start, b - 0xc0, 1, 0x80, 0xbf⟩
  else if b = 0xe0 then some ⟨octet, start, 0, 2, 0xa0, 0xbf⟩
  else if b = 0xed then some ⟨octet, start, 0xd, 2, 0x80, 0x9f⟩
  else if 0xe1 ≤ b ∧ b ≤ 0xef then some ⟨octet, start, b - 0xe0, 2, 0x80, 0xbf⟩
  else if b = 0xf0 then some ⟨octet, start, 0, 3, 0x90, 0xbf⟩
  else if 0xf1 ≤ b ∧ b ≤ 0xf3 then some ⟨octet, start, b - 0xf0, 3, 0x80, 0xbf⟩
  else if b = 0xf4 then some ⟨octet, start, 4, 3, 0x80, 0x8f⟩
  else none

/-- The error of a character that stops at a place. -/
def Partial.error (p : Partial) (fault : Utf8Fault) (position : Nat) : Utf8Error :=
  ⟨fault, p.octet, p.start, position - p.start⟩

/-- Decode octets from a place on, a character possibly being under way. -/
def decodeUtf8From : (position : Nat) → Option Partial → List UInt8 →
    Except Utf8Error (List Char)
  | _, none, [] => .ok []
  | position, some p, [] => .error (p.error .unexpectedEnd position)
  | position, none, octet :: rest =>
    if octet.toNat < 0x80 then do
      let others ← decodeUtf8From (position + 1) none rest
      pure (Char.ofNat octet.toNat :: others)
    else
      match Partial.begin? octet position with
      | some p => decodeUtf8From (position + 1) (some p) rest
      | none => .error ⟨.invalidStart, octet, position, 1⟩
  | position, some p, octet :: rest =>
    if p.least ≤ octet.toNat ∧ octet.toNat ≤ p.greatest then
      let bits := p.bits * 64 + (octet.toNat - 0x80)
      if p.owed ≤ 1 then do
        let others ← decodeUtf8From (position + 1) none rest
        pure (Char.ofNat bits :: others)
      else
        decodeUtf8From (position + 1)
          (some ⟨p.octet, p.start, bits, p.owed - 1, 0x80, 0xbf⟩) rest
    else .error (p.error .invalidContinuation position)

/-- Decode octets. -/
def decodeUtf8 (octets : List UInt8) : Except Utf8Error (List Char) :=
  decodeUtf8From 0 none octets

/-- The octets of a text. -/
def encodeUtf8 (s : String) : List UInt8 :=
  s.toUTF8.toList

end Rulebook.Text
