/-!
# FormSchema — UTF-8

Decoding bytes to characters. A text that is not UTF-8 is refused with the first bytes that are
wrong and what is wrong about them.
-/

namespace FormSchema.Text

inductive Utf8Fault
  | startByte
  | continuationByte
  | endOfData
  deriving DecidableEq, Repr

def Utf8Fault.message : Utf8Fault → String
  | .startByte => "invalid start byte"
  | .continuationByte => "invalid continuation byte"
  | .endOfData => "unexpected end of data"

/-- The wrong bytes: where they start, the first one, and how many they are. -/
structure Utf8Error where
  fault : Utf8Fault
  position : Nat
  byte : Nat
  count : Nat
  deriving DecidableEq, Repr

def Utf8Error.message (e : Utf8Error) : String :=
  let digits := Nat.toDigits 16 e.byte
  let hex := String.ofList (List.replicate (2 - digits.length) '0' ++ digits)
  let place :=
    if e.count = 1 then s!"byte 0x{hex} in position {e.position}"
    else s!"bytes in position {e.position}-{e.position + e.count - 1}"
  s!"'utf-8' codec can't decode {place}: {e.fault.message}"

/-- The bits that continue a character, if the byte is one that may. The ends are the least and the
greatest byte allowed. -/
def continuation? (low high byte : Nat) : Option Nat :=
  if low ≤ byte ∧ byte ≤ high then some (byte % 64) else none

/-- Reads the bytes that have to follow a first one; `low` and `high` limit the next byte, and the
later ones may be any of the continuation bytes. Gives the character's number and the rest, or the
fault and how many bytes it spoils. -/
def continueChar (low high : Nat) :
    (missing : Nat) → (code read : Nat) → List Nat → Except (Utf8Fault × Nat) (Nat × List Nat)
  | 0, code, _, rest => .ok (code, rest)
  | _ + 1, _, read, [] => .error (.endOfData, read)
  | missing + 1, code, read, byte :: rest =>
    match continuation? low high byte with
    | some bits => continueChar 0x80 0xbf missing (64 * code + bits) (read + 1) rest
    | none => .error (.continuationByte, read)

/-- The first byte of a character: the bits it gives, how many bytes follow, and the limits of the
next one, which keep out overlong forms, surrogates and numbers beyond U+10FFFF. -/
def leadByte? (byte : Nat) : Option (Nat × Nat × Nat × Nat) :=
  if byte < 0x80 then some (byte, 0, 0x80, 0xbf)
  else if byte < 0xc2 then none
  else if byte < 0xe0 then some (byte % 32, 1, 0x80, 0xbf)
  else if byte < 0xf0 then
    some (byte % 16, 2, if byte = 0xe0 then 0xa0 else 0x80, if byte = 0xed then 0x9f else 0xbf)
  else if byte < 0xf5 then
    some (byte % 8, 3, if byte = 0xf0 then 0x90 else 0x80, if byte = 0xf4 then 0x8f else 0xbf)
  else none

def decodeUtf8From : (fuel position : Nat) → List Nat → Except Utf8Error (List Char)
  | 0, _, _ => .ok []
  | _ + 1, _, [] => .ok []
  | fuel + 1, position, byte :: rest =>
    match leadByte? byte with
    | none => .error ⟨.startByte, position, byte, 1⟩
    | some (bits, missing, low, high) =>
      match continueChar low high missing bits 1 rest with
      | .error (fault, count) => .error ⟨fault, position, byte, count⟩
      | .ok (code, rest') => do
        let chars ← decodeUtf8From fuel (position + 1 + missing) rest'
        return Char.ofNat code :: chars

def decodeUtf8 (bytes : List Nat) : Except Utf8Error (List Char) :=
  decodeUtf8From (bytes.length + 1) 0 bytes

end FormSchema.Text
