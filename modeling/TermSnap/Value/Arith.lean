import TermSnap.Fault
/-!
# Arithmetic on values

Sums, differences and negation, as the cursor and the playback clock use them: exact on integers,
as doubles once a double takes part, joining for texts, lists and tuples, and a fault naming both
sorts otherwise. An augmented sum `a += b` extends a list by any value's elements.
-/

namespace TermSnap

/-- A number: an exact integer or a double. -/
inductive Num where
  | int (n : Int)
  | float (x : Float)

namespace Num

/-- The nearest double to an integer, failing beyond the range of doubles. -/
def toDouble (n : Int) : Except Fault Float :=
  match Number.ofInt? n with
  | some x => .ok x
  | none => .error .tooLargeForFloat

def combine (onInt : Int → Int → Int) (onFloat : Float → Float → Float) :
    Num → Num → Except Fault Value
  | int a, int b => .ok (.int (onInt a b))
  | int a, float y => (toDouble a).map fun x => .float (onFloat x y)
  | float x, int b => (toDouble b).map fun y => .float (onFloat x y)
  | float x, float y => .ok (.float (onFloat x y))

end Num

/-- The number a value stands for, if it is one. -/
def Value.num? : Value → Option Num
  | .bool b => some (.int (if b then 1 else 0))
  | .int n => some (.int n)
  | .float x => some (.float x)
  | _ => none

/-- How a sum is written: `a + b`, or the augmented `a += b`. -/
inductive AddForm where
  | binary
  | augmented
deriving Repr, DecidableEq

def AddForm.symbol : AddForm → String
  | .binary => "+"
  | .augmented => "+="

namespace Value

/-- The sum of two values. -/
def add (form : AddForm) (a b : Value) : Except Fault Value :=
  match a.num?, b.num? with
  | some x, some y => Num.combine (· + ·) (· + ·) x y
  | _, _ =>
    match a, b with
    | str s, str t => .ok (str (s ++ t))
    | str _, b => .error (.concatOnly .str b.kind)
    | array xs, array ys => .ok (array (xs ++ ys))
    | array xs, b =>
      match form with
      | .binary => .error (.concatOnly .list b.kind)
      | .augmented =>
        match b.elements? with
        | some ys => .ok (array (xs ++ ys))
        | none => .error (.notIterable b.kind)
    | tuple xs, tuple ys => .ok (tuple (xs ++ ys))
    | tuple _, b => .error (.concatOnly .tuple b.kind)
    | a, b => .error (.unsupportedOperands form.symbol a.kind b.kind)

def sub (a b : Value) : Except Fault Value :=
  match a.num?, b.num? with
  | some x, some y => Num.combine (· - ·) (· - ·) x y
  | _, _ => .error (.unsupportedOperands "-" a.kind b.kind)

/-- The negation of a number; a truth value negates as 0 or 1. -/
def neg : Value → Except Fault Value
  | bool b => .ok (int (if b then -1 else 0))
  | int n => .ok (int (-n))
  | float x => .ok (float (-x))
  | v => .error (.badUnary v.kind)

@[simp] theorem add_int (form : AddForm) (a b : Int) :
    add form (int a) (int b) = .ok (int (a + b)) := rfl

@[simp] theorem sub_int (a b : Int) : sub (int a) (int b) = .ok (int (a - b)) := rfl

@[simp] theorem neg_int (a : Int) : neg (int a) = .ok (int (-a)) := rfl

end Value

end TermSnap
