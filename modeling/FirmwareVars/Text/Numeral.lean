import FirmwareVars.Text
/-!
# Numerals

Numbers in positional notation, in any base up to sixteen.  `spell` writes the shortest numeral, `spellFixed` one of a
given width; `read?` takes a non-empty run of digits, with any number of leading zeros, and `readSigned?` the same
after at most one plus sign.  Numbers are unbounded here: a width limit is a test on the value, so nothing wraps.
-/
namespace FirmwareVars
namespace Numeral

/-- The digit of a value below sixteen, in lower case. -/
def digitChar (d : Nat) : Char := if d < 10 then Char.ofNat (48 + d) else Char.ofNat (87 + d)

/-- The value of a digit of the base; letters count in either case. -/
def digit? (base : Nat) (c : Char) : Option Nat :=
  let n := c.toNat
  let value :=
    if 48 ≤ n ∧ n ≤ 57 then n - 48
    else if 97 ≤ n ∧ n ≤ 102 then n - 87
    else if 65 ≤ n ∧ n ≤ 70 then n - 55
    else 16
  if value < base ∧ value < 16 then some value else none

/-- A hexadecimal digit in either case. -/
def isHexDigit (c : Char) : Bool := (digit? 16 c).isSome

def isDigit (c : Char) : Bool := (digit? 10 c).isSome

/-- The shortest numeral; zero is one digit. -/
def spell (base n : Nat) : Text :=
  if base < 2 ∨ n < base then [digitChar n]
  else spell base (n / base) ++ [digitChar (n % base)]
termination_by n
decreasing_by
  rename_i h
  exact Nat.div_lt_self (by omega) (by omega)

/-- The last `width` digits, with zeros in front of a shorter numeral. -/
def spellFixed (base : Nat) : Nat → Nat → Text
  | 0, _ => []
  | width + 1, n => spellFixed base width (n / base) ++ [digitChar (n % base)]

def decimal (n : Nat) : Text := spell 10 n

/-- The value of a run of digits read from the left, after a number already read. -/
def readFrom? (base : Nat) : Nat → Text → Option Nat
  | value, [] => some value
  | value, c :: cs =>
    match digit? base c with
    | some d => readFrom? base (value * base + d) cs
    | none => none

/-- The value of a numeral: one digit or more, and nothing else. -/
def read? (base : Nat) : Text → Option Nat
  | [] => none
  | t => readFrom? base 0 t

/-- The value of a numeral that may carry a plus sign. -/
def readSigned? (base : Nat) : Text → Option Nat
  | '+' :: digits => read? base digits
  | digits => read? base digits

/-- The numeral as a 32-bit word, when its value is one. -/
def readWord? (base : Nat) (t : Text) : Option UInt32 :=
  match readSigned? base t with
  | some n => if n < UInt32.size then some (UInt32.ofNat n) else none
  | none => none

end Numeral
end FirmwareVars
