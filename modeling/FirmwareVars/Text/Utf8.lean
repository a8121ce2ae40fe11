import FirmwareVars.Bytes
/-!
# UTF-8

`encode` writes a text in UTF-8.  Reading is one machine over the bytes: `pieces` cuts any byte string into the
characters it spells and the runs that spell none, where such a run is as long as it could still have become a
character.  `decode?` accepts a byte string that is characters only; `decodeLossy` shows every other run as one
replacement character U+FFFD.
-/
namespace FirmwareVars
namespace Utf8

/-- The bytes of a character: one to four of them. -/
def encodeChar (c : Char) : Bytes := String.utf8EncodeChar c

def encode (t : Text) : Bytes := t.flatMap encodeChar

/-- What begins a number of bytes into a text, if a character begins there. -/
def drop? : Nat → Text → Option Text
  | 0, t => some t
  | n, c :: cs => if c.utf8Size ≤ n then drop? (n - c.utf8Size) cs else none
  | _, [] => none

/-- The characters of the first bytes of a text, if one ends there. -/
def take? : Nat → Text → Option Text
  | 0, _ => some []
  | n, c :: cs => if c.utf8Size ≤ n then (take? (n - c.utf8Size) cs).map (c :: ·) else none
  | _, [] => none

/-- A cut-out part of a byte string. -/
inductive Piece
  | char (c : Char)
  | broken (bytes : Bytes)
  deriving DecidableEq

/-- A character that has begun: the bits so far, the bytes still owed, the bounds of the next one, and the bytes
already taken. -/
structure Partial where
  value : Nat
  owed : Nat
  low : UInt8
  high : UInt8
  held : Bytes
  deriving DecidableEq

/-- What a first byte makes: a whole character, the beginning of one, or nothing. -/
def start (b : UInt8) : Piece ⊕ Partial :=
  let n := b.toNat
  if n < 0x80 then .inl (.char (Char.ofNat n))
  else if n < 0xC2 then .inl (.broken [b])
  else if n < 0xE0 then .inr ⟨n % 32, 1, 0x80, 0xBF, [b]⟩
  else if n = 0xE0 then .inr ⟨n % 16, 2, 0xA0, 0xBF, [b]⟩
  else if n = 0xED then .inr ⟨n % 16, 2, 0x80, 0x9F, [b]⟩
  else if n < 0xF0 then .inr ⟨n % 16, 2, 0x80, 0xBF, [b]⟩
  else if n = 0xF0 then .inr ⟨n % 8, 3, 0x90, 0xBF, [b]⟩
  else if n < 0xF4 then .inr ⟨n % 8, 3, 0x80, 0xBF, [b]⟩
  else if n = 0xF4 then .inr ⟨n % 8, 3, 0x80, 0x8F, [b]⟩
  else .inl (.broken [b])

/-- What a begun character and a byte within its bounds make. -/
def Partial.push (p : Partial) (b : UInt8) : Piece ⊕ Partial :=
  let value := p.value * 64 + b.toNat % 64
  if p.owed ≤ 1 then .inl (.char (Char.ofNat value))
  else .inr ⟨value, p.owed - 1, 0x80, 0xBF, p.held ++ [b]⟩

/-- The pieces of a byte string, from between characters or from within one. -/
def piecesFrom : Option Partial → Bytes → List Piece
  | none, [] => []
  | some p, [] => [.broken p.held]
  | none, b :: bs =>
    match start b with
    | .inl piece => piece :: piecesFrom none bs
    | .inr p => piecesFrom (some p) bs
  | some p, b :: bs =>
    if p.low ≤ b ∧ b ≤ p.high then
      match p.push b with
      | .inl piece => piece :: piecesFrom none bs
      | .inr q => piecesFrom (some q) bs
    else
      match start b with
      | .inl piece => .broken p.held :: piece :: piecesFrom none bs
      | .inr q => .broken p.held :: piecesFrom (some q) bs

def pieces (bs : Bytes) : List Piece := piecesFrom none bs

/-- The text of pieces that are all characters. -/
def textOf? : List Piece → Option Text
  | [] => some []
  | .char c :: rest => (textOf? rest).map (c :: ·)
  | .broken _ :: _ => none

/-- The text that the bytes spell, when they are UTF-8 throughout. -/
def decode? (bs : Bytes) : Option Text := textOf? (pieces bs)

/-- The text that the bytes spell, with U+FFFD for every run that spells no character. -/
def decodeLossy (bs : Bytes) : Text :=
  (pieces bs).map fun
    | .char c => c
    | .broken _ => '\ufffd'

end Utf8
end FirmwareVars
