import FirmwareVars.Text.Numeral
/-!
# Magnitudes of double precision

Which decimal numbers have a magnitude of double precision, when one is made as a short significand times a power of
ten: `significand` takes as many leading digits as fit 64 bits, both factors are rounded to 53 bits, and so is their
product.  Rounding three times can move a number over the edge in either direction, so this is not the question whether
the number itself would round to something finite.
-/
namespace FirmwareVars
namespace Json
namespace Double

/-- How many bits a magnitude has. -/
def precision : Nat := 53

/-- The nearest number with 53 significant bits; of two that are equally near, the one whose last bit is zero. -/
def round (n : Nat) : Nat :=
  let extra := n.log2 + 1 - precision
  let unit := Nat.pow 2 extra
  let kept := n / unit
  let left := n % unit
  if 2 * left > unit ∨ (2 * left = unit ∧ kept % 2 = 1) then (kept + 1) * unit else kept * unit

/-- The least number that rounds to nothing finite: half a unit above the greatest magnitude. -/
def tooLarge : Nat := Nat.pow 2 1024 - Nat.pow 2 970

/-- The greatest power of ten that is a factor. -/
def exponentLimit : Nat := 308

/-- Takes digits after a number while the result fits 64 bits: the result, and the digits that are left. -/
def significand : Nat → Text → Nat × Text
  | n, [] => (n, [])
  | n, c :: cs =>
    let next := 10 * n + (Numeral.digit? 10 c).getD 0
    if next < UInt64.size then significand next cs else (n, c :: cs)

/-- A number of digits before and after a point, times a power of ten, has a finite magnitude.  The digits before the
point that are too many count as powers of ten, and those after it do not count. -/
def isFinite (whole fraction : Text) (exponent : Int) : Bool :=
  let (n, excess) := significand 0 whole
  let (n, left) := significand n fraction
  let scale : Int := exponent + excess.length - (fraction.length - left.length : Nat)
  if n = 0 ∨ scale < 0 then true
  else if exponentLimit < scale.toNat then false
  else round n * round (Nat.pow 10 scale.toNat) < tooLarge

/-! ## Examples -/

/-- The first number would round to the greatest magnitude; the second one, which is greater, does. -/
example : isFinite "17976931348623158".toList [] 292 = false ∧
    isFinite "179769313486231581".toList [] 291 = true := by
  decide +kernel

end Double
end Json
end FirmwareVars
