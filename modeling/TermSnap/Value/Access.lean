import TermSnap.Fault
/-!
# Taking values apart

How the terminal reads parts of values: list indices, range bounds, a document's fields, the
elements walked through, a frame's two parts, and a sequence's last element. An index fits a signed
64-bit word; a value of the wrong sort is a fault naming its sort.
-/

namespace TermSnap

namespace Value

def indexFloor : Int := -((Nat.pow 2 63 : Nat) : Int)

/-- The integer of a list index. -/
def index? (v : Value) : Except Fault Int :=
  match v.asInt? with
  | some n =>
    if indexFloor ≤ n ∧ n < -indexFloor then .ok n else .error .indexTooLarge
  | none => .error (.badListIndex v.kind)

/-- The integer of a bound of a range. -/
def rangeBound (v : Value) : Except Fault Int :=
  match v.asInt? with
  | some n => .ok n
  | none => .error (.notAnInteger v.kind)

def field (v : Value) (key : String) : Except Fault Value :=
  match v with
  | object ms =>
    match lookup (Text.ofString key) ms with
    | some w => .ok w
    | none => .error (.missingKey (text key))
  | array _ => .error (.badListIndex .str)
  | str _ => .error (.badTextIndex .str)
  | w => .error (.notSubscriptable w.kind)

def iterate (v : Value) : Except Fault (List Value) :=
  match v.elements? with
  | some xs => .ok xs
  | none => .error (.notIterable v.kind)

def pair (v : Value) : Except Fault (Value × Value) :=
  match v.elements? with
  | none => .error (.notUnpackable v.kind)
  | some [a, b] => .ok (a, b)
  | some xs => .error (if xs.length < 2 then .tooFewToUnpack xs.length else .tooManyToUnpack)

/-- The last element of a sequence and the sequence without it; an object is asked for the key
`-1`, which no object has. -/
def splitLast : Value → Except Fault (Value × Value)
  | str s =>
    match s.getLast? with
    | some p => .ok (str [p], str s.dropLast)
    | none => .error .textIndexOutOfRange
  | array xs =>
    match xs.getLast? with
    | some x => .ok (x, array xs.dropLast)
    | none => .error .indexOutOfRange
  | tuple xs =>
    match xs.getLast? with
    | some x => .ok (x, tuple xs.dropLast)
    | none => .error .indexOutOfRange
  | object _ => .error (.missingKey (int (-1)))
  | v => .error (.notSubscriptable v.kind)

theorem index?_int {n : Int} (h : indexFloor ≤ n ∧ n < -indexFloor) : index? (int n) = .ok n := by
  simp [index?, asInt?, h]

end Value

end TermSnap
