import TypeGraph.Text.Basic
import TypeGraph.Text.Hex

/-!
Reading UTF-8. Only the shortest encoding of a character is accepted, and no surrogate. A
fault names the longest run of bytes that could still have begun a character.
-/

namespace TypeGraph.Text.Utf8

inductive Reason
  | invalidStart
  | invalidContinuation
  | unexpectedEnd
deriving DecidableEq

def Reason.message : Reason → Text
  | .invalidStart => "invalid start byte"
  | .invalidContinuation => "invalid continuation byte"
  | .unexpectedEnd => "unexpected end of data"

/-- A broken sequence: where it starts, its first byte and how many bytes it has. -/
structure Fault where
  position : Nat
  first : UInt8
  length : Nat
  reason : Reason
deriving DecidableEq

def Fault.message (f : Fault) : Text :=
  let place :=
    if f.length ≤ 1 then
      "byte 0x" ++ hexPadded 2 f.first.toNat ++ " in position " ++ toString f.position
    else
      "bytes in position " ++ toString f.position ++ "-" ++
        toString (f.position + f.length - 1)
  "'utf-8' codec can't decode " ++ place ++ ": " ++ f.reason.message

/-- The shape that a first byte announces: how many continuation bytes follow, the payload of
the first byte, and the bounds of the second byte. -/
structure Shape where
  following : Nat
  payload : Nat
  secondMin : Nat
  secondMax : Nat

def Shape.ofFirst (b : Nat) : Option Shape :=
  if b < 0x80 then some ⟨0, b, 0, 0⟩
  else if b < 0xC2 then none
  else if b < 0xE0 then some ⟨1, b - 0xC0, 0x80, 0xBF⟩
  else if b < 0xF0 then
    some ⟨2, b - 0xE0, if b = 0xE0 then 0xA0 else 0x80, if b = 0xED then 0x9F else 0xBF⟩
  else if b < 0xF5 then
    some ⟨3, b - 0xF0, if b = 0xF0 then 0x90 else 0x80, if b = 0xF4 then 0x8F else 0xBF⟩
  else none

/-- Collect continuation bytes into a code point; `seen` bytes of the character are read. -/
def continuation (lo hi : Nat) : Nat → Nat → Nat → List UInt8 → Except (Nat × Reason) Nat
  | 0, code, _, _ => .ok code
  | _ + 1, _, seen, [] => .error (seen, .unexpectedEnd)
  | n + 1, code, seen, b :: rest =>
      if lo ≤ b.toNat ∧ b.toNat ≤ hi then
        continuation 0x80 0xBF n (code * 64 + (b.toNat - 0x80)) (seen + 1) rest
      else .error (seen, .invalidContinuation)

/-- Read from a byte offset onwards. -/
def decodeFrom (position : Nat) (bytes : List UInt8) : Except Fault (List Char) :=
  match bytes with
  | [] => .ok []
  | first :: rest =>
      match Shape.ofFirst first.toNat with
      | none => .error ⟨position, first, 1, .invalidStart⟩
      | some shape =>
          match continuation shape.secondMin shape.secondMax shape.following shape.payload 1 rest
          with
          | .error (length, reason) => .error ⟨position, first, length, reason⟩
          | .ok code => do
              let tail ← decodeFrom (position + 1 + shape.following) (rest.drop shape.following)
              .ok (Char.ofNat code :: tail)
termination_by bytes.length
decreasing_by simp only [List.length_drop, List.length_cons]; omega

def decode (bytes : List UInt8) : Except Fault (List Char) := decodeFrom 0 bytes

end TypeGraph.Text.Utf8
