import TermSnap.Text.Blank
import TermSnap.Text.Digit
/-!
# Reading numerals

An integer numeral is optional blanks and sign, digits of any script with single underscores
between them, and optional blanks; more than `digitLimit` digits are refused. A decimal numeral
also admits `inf`, `infinity`, `nan`, a point and an exponent; its value is the nearest double.
-/

namespace TermSnap.Text

/-- The most digits an integer numeral may have. -/
def digitLimit : Nat := 4300

/-- Why a text is not an integer numeral. -/
inductive NumeralError where
  /-- The text does not have the form of a numeral. -/
  | malformed
  /-- The numeral has this many digits, more than `digitLimit`. -/
  | tooManyDigits (count : Nat)
deriving Repr, DecidableEq

/-- Splits off an optional sign: whether it is a minus, and the rest. -/
def splitSign : List Char → Bool × List Char
  | '-' :: cs => (true, cs)
  | '+' :: cs => (false, cs)
  | cs => (false, cs)

def splitSignText : Text → Bool × Text
  | .char '-' :: cs => (true, cs)
  | .char '+' :: cs => (false, cs)
  | cs => (false, cs)

/-- Whether a run of digits and underscores has an underscore only between two digits. -/
def underscoresBetween : Text → Bool
  | [] => true
  | [.char '_'] => false
  | .char '_' :: .char '_' :: _ => false
  | _ :: cs => underscoresBetween cs

def isDigitOrUnderscore (p : Point) : Bool := isDigit p || p.is '_'

def digitsValue (ds : List Nat) : Nat := ds.foldl (fun acc d => 10 * acc + d) 0

/-- Reads an integer numeral. -/
def readInt (s : Text) : Except NumeralError Int :=
  let (negative, cs) := splitSignText (s.dropWhile isBlank)
  let run := cs.takeWhile isDigitOrUnderscore
  let rest := cs.dropWhile isDigitOrUnderscore
  let digits := run.filterMap digitValue?
  if run.head? == some (.char '_') || !underscoresBetween run then .error .malformed
  else if digitLimit < digits.length then .error (.tooManyDigits digits.length)
  else if digits.isEmpty || !(rest.all isBlank) then .error .malformed
  else
    let n : Int := digitsValue digits
    .ok (if negative then -n else n)

/-- Replaces each blank by a space and each decimal digit by its ASCII digit. -/
def asciiForm (p : Point) : Char :=
  if isBlank p then ' '
  else match digitValue? p with
    | some d => Char.ofNat (48 + d)
    | none =>
      match p with
      | .char c => c
      | .surrogate _ => '�'

def trimSpaces (cs : List Char) : List Char :=
  ((cs.dropWhile (· == ' ')).reverse.dropWhile (· == ' ')).reverse

def underscoresInside : List Char → Bool
  | a :: '_' :: b :: cs => a.isDigit && b.isDigit && underscoresInside (b :: cs)
  | [_, '_'] => false
  | '_' :: _ => false
  | _ :: cs => underscoresInside cs
  | [] => true

/-- The nearest double to `m · 10 ^ k`, far exponents cut short to an infinity or zero. -/
def scaleTen (m : Nat) (k : Int) : Float :=
  if m = 0 then 0
  else if (Nat.toDigits 10 m).length + k > 330 then 1 / 0
  else if (Nat.toDigits 10 m).length + k < -345 then 0
  else if 0 ≤ k then Float.ofScientific m false k.toNat
  else Float.ofScientific m true (-k).toNat

def readDecimal (cs : List Char) : Option Float :=
  let lower := cs.map Char.toLower
  if lower = "inf".toList || lower = "infinity".toList then some (1 / 0)
  else if lower = "nan".toList then some (0 / 0)
  else
    let whole := cs.takeWhile Char.isDigit
    let afterWhole := cs.dropWhile Char.isDigit
    let (fraction, afterFraction) := match afterWhole with
      | '.' :: r => (r.takeWhile Char.isDigit, r.dropWhile Char.isDigit)
      | r => ([], r)
    let hasPoint := afterWhole.head? == some '.'
    let exponent? : Option Int := match afterFraction with
      | [] => some 0
      | e :: r =>
        if e == 'e' || e == 'E' then
          let (negative, ds) := splitSign r
          if !ds.isEmpty && ds.all Char.isDigit then
            let k : Int := digitsValue (ds.map fun d => d.toNat - 48)
            some (if negative then -k else k)
          else none
        else none
    if whole.isEmpty && fraction.isEmpty then none
    else if !hasPoint && !fraction.isEmpty then none
    else exponent?.map fun k =>
      scaleTen (digitsValue ((whole ++ fraction).map fun d => d.toNat - 48)) (k - fraction.length)

/-- Reads a decimal numeral. -/
def readFloat (s : Text) : Option Float :=
  let cs := s.map asciiForm
  if !underscoresInside cs then none
  else
    let body := trimSpaces (cs.filter (· != '_'))
    let (negative, rest) := splitSign body
    (readDecimal rest).map fun x => if negative then -x else x

example : readInt (Text.ofString " -1_000\n") = .ok (-1000) := by cbv
example : readInt (Text.ofString "1__0") = .error .malformed := by cbv
example : readInt (Text.ofString "3;4") = .error .malformed := by cbv

end TermSnap.Text
