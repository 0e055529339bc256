import TermSnap.Number.Binary
/-!
# Shortest decimal text of a double

The text of a double is the decimal with the fewest significant digits that reads back as it, the
nearer of two and the even one on a tie. A decimal of `n` digits reads back only if a neighbour of
the double on the `n`-digit grid does, so `shortest` tests those neighbours for `n` from 1 up.
-/

namespace TermSnap.Number

/-- A decimal number `digits · 10 ^ exponent`. -/
structure Decimal where
  digits : Nat
  exponent : Int
deriving Repr, DecidableEq

def digitCount (n : Nat) : Nat := (Nat.toDigits 10 n).length

def compareDecBin (c : Nat) (j : Int) (x : Nat) (p : Int) : Ordering :=
  compare (c * Nat.pow 10 j.toNat * Nat.pow 2 (-p).toNat)
    (x * Nat.pow 2 p.toNat * Nat.pow 10 (-j).toNat)

/-- The exponent `E` with `10 ^ E ≤ m · 2 ^ e < 10 ^ (E + 1)`, for `m > 0`. -/
def decimalExponent (m : Nat) (e : Int) : Int :=
  let a := m * Nat.pow 2 e.toNat
  let b := Nat.pow 2 (-e).toNat
  let guess : Int := (digitCount a : Int) - digitCount b
  let reached :=
    if 0 ≤ guess then b * Nat.pow 10 guess.toNat ≤ a else b ≤ a * Nat.pow 10 (-guess).toNat
  if reached then guess else guess - 1

def floorOnGrid (m : Nat) (e j : Int) : Nat :=
  m * Nat.pow 2 e.toNat * Nat.pow 10 (-j).toNat / (Nat.pow 2 (-e).toNat * Nat.pow 10 j.toNat)

/-- The reals that round to the double `m · 2 ^ e`, in units of `2 ^ (e - 2)`, with whether the
ends belong. -/
structure Interval where
  low : Nat
  high : Nat
  closed : Bool

/-- The rounding interval of `m · 2 ^ e`; `narrow` says the gap below is half the gap above. -/
def Interval.around (m : Nat) (narrow : Bool) : Interval :=
  ⟨4 * m - (if narrow then 1 else 2), 4 * m + 2, m % 2 == 0⟩

def Interval.holds (r : Interval) (e : Int) (c : Nat) (j : Int) : Bool :=
  let lo := compareDecBin c j r.low (e - 2)
  let hi := compareDecBin c j r.high (e - 2)
  if r.closed then lo != .lt && hi != .gt else lo == .gt && hi == .lt

/-- Twice the distance from `c · 10 ^ j` to `m · 2 ^ e`, over a common denominator. -/
def gapTo (m : Nat) (e : Int) (c : Nat) (j : Int) : Nat :=
  let l := c * Nat.pow 10 j.toNat * Nat.pow 2 (-e).toNat
  let r := m * Nat.pow 2 e.toNat * Nat.pow 10 (-j).toNat
  if l ≤ r then r - l else l - r

/-- The better of two grid points that both read back: the nearer, and on a tie the even one. -/
def nearer (m : Nat) (e j : Int) (c d : Nat) : Nat :=
  match compare (gapTo m e c j) (gapTo m e d j) with
  | .lt => c
  | .gt => d
  | .eq => if c % 2 == 0 then c else d

/-- The grid point of `n` significant digits that reads back, if one does. -/
def onGrid? (m : Nat) (e : Int) (r : Interval) (top : Int) (n : Nat) : Option Decimal :=
  let j := top - n + 1
  let c := floorOnGrid m e j
  match r.holds e c j, r.holds e (c + 1) j with
  | true, true => some ⟨nearer m e j c (c + 1), j⟩
  | true, false => some ⟨c, j⟩
  | false, true => some ⟨c + 1, j⟩
  | false, false => none

def Decimal.normalize (d : Decimal) : Decimal :=
  go d.digits.log2.succ d
where
  /-- Each step removes one zero; the digit count bounds the steps. -/
  go : Nat → Decimal → Decimal
    | 0, d => d
    | fuel + 1, d =>
      if d.digits ≠ 0 ∧ d.digits % 10 = 0 then go fuel ⟨d.digits / 10, d.exponent + 1⟩
      else d

/-- The shortest decimal that reads back as the positive double `m · 2 ^ e`. -/
def shortest (m : Nat) (e : Int) (narrow : Bool) : Decimal :=
  let r := Interval.around m narrow
  let top := decimalExponent m e
  let found := (List.range 17).findSome? fun k => onGrid? m e r top (k + 1)
  (found.getD ⟨floorOnGrid m e (top - 16), top - 16⟩).normalize

/-- How a decimal is laid out as text. -/
structure Layout where
  /-- Least scientific exponent written in positional form. -/
  lowest : Int
  /-- Least scientific exponent, above `lowest`, written in scientific form again. -/
  highest : Int
  /-- Whether a positional integral value keeps a point and one zero. -/
  pointZero : Bool
  /-- The letter before the exponent. -/
  mark : Char
  /-- Whether a nonnegative exponent carries a plus sign. -/
  plus : Bool
  /-- Least number of exponent digits, padded with zeros. -/
  width : Nat
  /-- Spelling of the positive infinity. -/
  infinity : String
  /-- Spelling of a NaN. -/
  notANumber : String

/-- The general layout: positional from `1e-4` to below `1e16`, a trailing `.0` on integral
values, and exponents with a sign and at least two digits. -/
def Layout.general : Layout :=
  ⟨-4, 16, true, 'e', true, 2, "inf", "nan"⟩

def Layout.place (l : Layout) (ds : List Char) (s : Int) : String :=
  let n := ds.length
  if l.lowest ≤ s ∧ s < l.highest then
    if s < 0 then String.ofList ('0' :: '.' :: List.replicate ((-s).toNat - 1) '0' ++ ds)
    else if s.toNat + 1 < n then
      String.ofList (ds.take (s.toNat + 1) ++ '.' :: ds.drop (s.toNat + 1))
    else
      String.ofList (ds ++ List.replicate (s.toNat + 1 - n) '0') ++
        (if l.pointZero then ".0" else "")
  else
    let mantissa := match ds with
      | [] => "0"
      | [d] => String.singleton d
      | d :: rest => String.ofList (d :: '.' :: rest)
    let expDigits := Nat.toDigits 10 s.natAbs
    let sign := if s < 0 then "-" else if l.plus then "+" else ""
    mantissa ++ String.singleton l.mark ++ sign ++
      String.ofList (List.replicate (l.width - expDigits.length) '0' ++ expDigits)

def Layout.text (l : Layout) (x : Float) : String :=
  match shape x with
  | .nan => l.notANumber
  | .infinite negative => (if negative then "-" else "") ++ l.infinity
  | .finite negative m e =>
    let sign := if negative then "-" else ""
    if m = 0 then sign ++ l.place ['0'] 0
    else
      let d := shortest m e (narrowBelow x)
      let ds := Nat.toDigits 10 d.digits
      sign ++ l.place ds (d.exponent + ds.length - 1)

/-- The shortest text of a double in the general layout. -/
def showFloat (x : Float) : String := Layout.general.text x

end TermSnap.Number
