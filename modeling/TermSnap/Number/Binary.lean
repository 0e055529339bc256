/-!
# Doubles as exact binary numbers

A double is NaN, an infinity, or `± m · 2 ^ e` read off its bit pattern; with that shape a double
and an integer compare exactly, with no rounding of either side (`compareInt`).
-/

namespace TermSnap.Number

/-- The three kinds of double, the finite ones as sign, significand and binary exponent. -/
inductive Shape where
  | nan
  | infinite (negative : Bool)
  | finite (negative : Bool) (significand : Nat) (exponent : Int)
deriving Repr, DecidableEq

def fractionBits : Nat := 52

/-- The shape of a double, read from its sign bit, eleven exponent bits and fraction. -/
def shapeOfBits (bits : Nat) : Shape :=
  let negative : Bool := bits / Nat.pow 2 63 % 2 == 1
  let field : Nat := bits / Nat.pow 2 fractionBits % Nat.pow 2 11
  let fraction : Nat := bits % Nat.pow 2 fractionBits
  if field = Nat.pow 2 11 - 1 then
    if fraction = 0 then .infinite negative else .nan
  else if field = 0 then .finite negative fraction (-1074)
  else .finite negative (fraction + Nat.pow 2 fractionBits) ((field : Int) - 1075)

def shape (x : Float) : Shape := shapeOfBits x.toBits.toNat

/-- Whether the gap to the next smaller double is half the gap to the next larger one. -/
def narrowBelow (x : Float) : Bool :=
  let bits := x.toBits.toNat
  bits % Nat.pow 2 fractionBits == 0 && bits / Nat.pow 2 fractionBits % Nat.pow 2 11 > 1

def compareScaled (a : Int) (i : Nat) (b : Int) (j : Nat) : Ordering :=
  compare (a * Int.pow 2 j) (b * Int.pow 2 i)

/-- The order of an integer and a finite signed binary number `± m · 2 ^ e`. -/
def compareFinite (n : Int) (negative : Bool) (m : Nat) (e : Int) : Ordering :=
  let v : Int := if negative then -(m : Int) else m
  if 0 ≤ e then compare n (v * Int.pow 2 e.toNat) else compareScaled n 0 v (-e).toNat

/-- The exact order of an integer and a double, or `none` when the double is NaN. -/
def compareInt (n : Int) (x : Float) : Option Ordering :=
  match shape x with
  | .nan => none
  | .infinite negative => some (if negative then .gt else .lt)
  | .finite negative m e => some (compareFinite n negative m e)

/-- Whether an integer is at least a double, exactly; never when the double is NaN. -/
def intGeFloat (n : Int) (x : Float) : Bool :=
  match compareInt n x with
  | some .lt => false
  | some _ => true
  | none => false

def floatGeInt (x : Float) (n : Int) : Bool :=
  match compareInt n x with
  | some .gt => false
  | some _ => true
  | none => false

/-- The least integer at least a finite double, or `none` for an infinity or NaN. -/
def ceil? (x : Float) : Option Int :=
  match shape x with
  | .finite negative m e =>
    if 0 ≤ e then some ((if negative then -(m : Int) else m) * Int.pow 2 e.toNat)
    else
      let d := Nat.pow 2 (-e).toNat
      some (if negative then -((m / d : Nat) : Int) else ((m + d - 1) / d : Nat))
  | _ => none

/-- The nearest double to an integer, or `none` when it lies beyond the largest double. -/
def ofInt? (n : Int) : Option Float :=
  let x := Float.ofInt n
  if x.isInf then none else some x

end TermSnap.Number
