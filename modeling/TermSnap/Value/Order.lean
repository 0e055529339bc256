import TermSnap.Value.Arith
/-!
# Comparing values

Numbers compare by exact value and NaN is in order with nothing; texts, lists and tuples compare
item by item, a NaN item equal to a NaN item as the same element met twice. Values of different
sorts are never equal, and ordering them is a fault.
-/

namespace TermSnap

/-- The order of two numbers, exact between an integer and a double; `none` with a NaN. -/
def Num.order : Num → Num → Option Ordering
  | .int a, .int b => some (if a < b then .lt else if b < a then .gt else .eq)
  | .int a, .float y => Number.compareInt a y
  | .float x, .int b => (Number.compareInt b x).map Ordering.swap
  | .float x, .float y =>
    if x < y then some .lt else if y < x then some .gt else if x == y then some .eq else none

/-- The order of two texts, code point by code point. -/
def Text.order : Text → Text → Ordering
  | [], [] => .eq
  | [], _ :: _ => .lt
  | _ :: _, [] => .gt
  | p :: ps, q :: qs =>
    if p.code < q.code then .lt else if q.code < p.code then .gt else Text.order ps qs

/-- An ordering test: at least, or below. -/
inductive Comparison where
  | atLeast
  | below
deriving Repr, DecidableEq

namespace Comparison

def symbol : Comparison → String
  | atLeast => ">="
  | below => "<"

def holds : Comparison → Ordering → Bool
  | atLeast, o => o != .lt
  | below, o => o == .lt

end Comparison

namespace Value

/-- Whether two values are both NaN: as items of one container they count as equal. -/
def bothNaN : Value → Value → Bool
  | float x, float y => x.isNaN && y.isNaN
  | _, _ => false

mutual
/-- Whether two values are equal. -/
def eq (a b : Value) : Bool :=
  match a.num?, b.num? with
  | some x, some y => Num.order x y == some .eq
  | _, _ =>
    match a, b with
    | null, null => true
    | str s, str t => s == t
    | array xs, array ys => eqItems xs ys
    | tuple xs, tuple ys => eqItems xs ys
    | object ms, object ns => ms.length == ns.length && eqMembers ms ns
    | _, _ => false

def eqItems : List Value → List Value → Bool
  | [], [] => true
  | x :: xs, y :: ys => (bothNaN x y || eq x y) && eqItems xs ys
  | _, _ => false

def eqMembers : List (Text × Value) → List (Text × Value) → Bool
  | [], _ => true
  | (k, v) :: rest, ns =>
    (match lookup k ns with
      | some w => bothNaN v w || eq v w
      | none => false) && eqMembers rest ns
end

mutual
/-- Whether `a` stands to `b` as the test `c` asks. -/
def compareBy (c : Comparison) (a b : Value) : Except Fault Bool :=
  match a.num?, b.num? with
  | some x, some y =>
    .ok (match Num.order x y with
      | some o => c.holds o
      | none => false)
  | _, _ =>
    match a, b with
    | str s, str t => .ok (c.holds (Text.order s t))
    | array xs, array ys => compareItems c xs ys
    | tuple xs, tuple ys => compareItems c xs ys
    | a, b => .error (.notComparable c.symbol a.kind b.kind)

/-- Compares two lists of items by their first pair of items that differ, or by length. -/
def compareItems (c : Comparison) : List Value → List Value → Except Fault Bool
  | [], [] => .ok (c.holds .eq)
  | [], _ :: _ => .ok (c.holds .lt)
  | _ :: _, [] => .ok (c.holds .gt)
  | x :: xs, y :: ys =>
    if bothNaN x y || eq x y then compareItems c xs ys else compareBy c x y
end

def isAtLeast (a b : Value) : Except Fault Bool := compareBy .atLeast a b

def isBelow (a b : Value) : Except Fault Bool := compareBy .below a b

@[simp] theorem isAtLeast_int (a b : Int) :
    isAtLeast (int a) (int b) = .ok (decide (b ≤ a)) := by
  simp only [isAtLeast, compareBy, num?, Num.order, Comparison.holds]
  congr 1
  by_cases h : a < b
  · simp [h, Int.not_le.mpr h]
  · have hb : b ≤ a := Int.not_lt.mp h
    by_cases h' : b < a <;> simp [h, h', hb]

@[simp] theorem isBelow_int (a b : Int) : isBelow (int a) (int b) = .ok (decide (a < b)) := by
  simp only [isBelow, compareBy, num?, Num.order, Comparison.holds]
  congr 1
  by_cases h : a < b
  · simp [h]
  · by_cases h' : b < a <;> simp [h, h']

end Value

end TermSnap
