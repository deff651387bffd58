import PseudoAsm.Text.Basic

/-!
# UTF-8

Reading text from bytes. A character is one byte below 0x80, or a lead byte with one to three
continuation bytes; some lead bytes narrow the range of the byte after them, which keeps out
overlong forms, surrogates and code points above 0x10FFFF. The first byte that does not fit stops
the reading: the fault covers the bytes of the sequence that had been accepted before it.
-/

namespace PseudoAsm.Text.Utf8

/-- Why bytes are not UTF-8. -/
inductive Cause where
  /-- A byte that starts no character. -/
  | invalidStart
  /-- A byte that cannot continue the character begun before it. -/
  | invalidContinuation
  /-- The bytes end inside a character. -/
  | unexpectedEnd
  deriving DecidableEq, Repr

/-- A place where bytes are not UTF-8: the first byte of the sequence and how many bytes it has. -/
structure Fault where
  cause : Cause
  position : Nat
  length : Nat
  lead : Nat
  deriving DecidableEq, Repr

/-- Number of bytes that encode a text. -/
def byteCount : Text → Nat
  | [] => 0
  | c :: rest => c.utf8Size + byteCount rest

/-- The ranges of the bytes that have to follow a lead byte; none when it starts no character. -/
def continuations? (lead : Nat) : Option (List (Nat × Nat)) :=
  let any := (0x80, 0xBF)
  if lead < 0x80 then some []
  else if lead < 0xC2 then none
  else if lead < 0xE0 then some [any]
  else if lead == 0xE0 then some [(0xA0, 0xBF), any]
  else if lead == 0xED then some [(0x80, 0x9F), any]
  else if lead < 0xF0 then some [any, any]
  else if lead == 0xF0 then some [(0x90, 0xBF), any, any]
  else if lead < 0xF4 then some [any, any, any]
  else if lead == 0xF4 then some [(0x80, 0x8F), any, any]
  else none

/-- The bits of the code point that a lead byte carries. -/
def leadBits (lead : Nat) : Nat :=
  if lead < 0x80 then lead
  else if lead < 0xE0 then lead % 0x20
  else if lead < 0xF0 then lead % 0x10
  else lead % 0x08

/-- A character of which some bytes have been read and others have to follow. -/
structure Begun where
  lead : Nat
  accepted : Nat
  bits : Nat
  expected : List (Nat × Nat)

namespace Begun

/-- The fault of a character that cannot be completed at the given position. -/
def fault (begun : Begun) (cause : Cause) (position : Nat) : Fault :=
  ⟨cause, position - begun.accepted, begun.accepted, begun.lead⟩

end Begun

/-- Reads bytes from a position on, after what has been read of a character. -/
def decodeFrom (position : Nat) : Option Begun → List UInt8 → Except Fault Text
  | none, [] => .ok []
  | some begun, [] => .error (begun.fault .unexpectedEnd position)
  | none, byte :: rest =>
    let lead := byte.toNat
    match continuations? lead with
    | none => .error ⟨.invalidStart, position, 1, lead⟩
    | some [] => (Char.ofNat lead :: ·) <$> decodeFrom (position + 1) none rest
    | some expected => decodeFrom (position + 1) (some ⟨lead, 1, leadBits lead, expected⟩) rest
  | some begun, byte :: rest =>
    let bits := begun.bits * 0x40 + byte.toNat % 0x40
    match begun.expected with
    | [] => .error (begun.fault .invalidContinuation position)
    | (first, last) :: expected =>
      if first ≤ byte.toNat && byte.toNat ≤ last then
        match expected with
        | [] => (Char.ofNat bits :: ·) <$> decodeFrom (position + 1) none rest
        | _ =>
          decodeFrom (position + 1) (some ⟨begun.lead, begun.accepted + 1, bits, expected⟩) rest
      else .error (begun.fault .invalidContinuation position)

/-- The text that bytes encode, or the first fault in them. -/
def decode (bytes : List UInt8) : Except Fault Text :=
  decodeFrom 0 none bytes

/-- The wording of a cause. -/
def Cause.message : Cause → Text
  | .invalidStart => "invalid start byte".toList
  | .invalidContinuation => "invalid continuation byte".toList
  | .unexpectedEnd => "unexpected end of data".toList

/-- What the user is told. -/
def Fault.message (fault : Fault) : Text :=
  let place :=
    if fault.length == 1 then
      "byte 0x".toList ++ hexadecimal 2 fault.lead ++ " in position ".toList ++
        ofNat fault.position
    else
      "bytes in position ".toList ++ ofNat fault.position ++ "-".toList ++
        ofNat (fault.position + fault.length - 1)
  "'utf-8' codec can't decode ".toList ++ place ++ ": ".toList ++ fault.cause.message

end PseudoAsm.Text.Utf8
