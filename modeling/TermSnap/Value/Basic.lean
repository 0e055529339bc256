import TermSnap.Text.Point
/-!
# Values

What a JSON document holds, and the tuples the terminal makes for red-green-blue colours, with the
operations that take them apart. An object keeps its members in the order their keys first
appeared, and a truth value stands for 0 or 1 wherever a number is expected.
-/

namespace TermSnap

inductive Value where
  | null
  | bool (b : Bool)
  | int (n : Int)
  | float (x : Float)
  | str (s : Text)
  | array (items : List Value)
  | tuple (items : List Value)
  | object (members : List (Text × Value))
deriving Inhabited

/-- The sorts of value. -/
inductive Kind where
  | none | bool | int | float | str | list | tuple | dict
deriving Repr, DecidableEq

/-- The word for a sort of value in error messages. -/
def Kind.name : Kind → String
  | .none => "NoneType"
  | .bool => "bool"
  | .int => "int"
  | .float => "float"
  | .str => "str"
  | .list => "list"
  | .tuple => "tuple"
  | .dict => "dict"

namespace Value

/-- The sort of a value. -/
def kind : Value → Kind
  | null => .none
  | bool _ => .bool
  | int _ => .int
  | float _ => .float
  | str _ => .str
  | array _ => .list
  | tuple _ => .tuple
  | object _ => .dict

def text (s : String) : Value := str (Text.ofString s)

def isText (v : Value) (s : String) : Bool :=
  match v with
  | str t => t == Text.ofString s
  | _ => false

/-- The integer a value stands for: an integer, or a truth value as one or zero. -/
def asInt? : Value → Option Int
  | bool b => some (if b then 1 else 0)
  | int n => some n
  | _ => none

def lookup (k : Text) : List (Text × Value) → Option Value
  | [] => none
  | (k', v) :: rest => if k' = k then some v else lookup k rest

/-- The value of a key of an object; `none` for a missing key or a value that is no object. -/
def get? (v : Value) (k : String) : Option Value :=
  match v with
  | object ms => lookup (Text.ofString k) ms
  | _ => none

/-- Members with `k` set to `v`: in place if the key is there, else at the end. -/
def setMember (k : Text) (v : Value) : List (Text × Value) → List (Text × Value)
  | [] => [(k, v)]
  | (k', w) :: rest => if k' = k then (k', v) :: rest else (k', w) :: setMember k v rest

/-- The elements of a value walked through: items, an object's keys, or each code point of a text. -/
def elements? : Value → Option (List Value)
  | array xs => some xs
  | tuple xs => some xs
  | object ms => some (ms.map fun m => str m.1)
  | str s => some (s.map fun p => str [p])
  | _ => none

def length? : Value → Option Nat
  | array xs => some xs.length
  | tuple xs => some xs.length
  | object ms => some ms.length
  | str s => some s.length
  | _ => none

/-- Whether a value counts as true: nonzero numbers (NaN too) and nonempty texts and
containers. -/
def truthy : Value → Bool
  | null => false
  | bool b => b
  | int n => n != 0
  | float x => x != 0
  | str s => !s.isEmpty
  | array xs => !xs.isEmpty
  | tuple xs => !xs.isEmpty
  | object ms => !ms.isEmpty

mutual
/-- The sort of the first part of a value that cannot be a key: an array, an object, or a tuple
holding one. -/
def unhashable? : Value → Option Kind
  | array _ => some .list
  | object _ => some .dict
  | tuple items => unhashableItem? items
  | _ => none

def unhashableItem? : List Value → Option Kind
  | [] => none
  | v :: rest =>
    match unhashable? v with
    | some k => some k
    | none => unhashableItem? rest
end

end Value

theorem Value.lookup_setMember (k : Text) (v : Value) (ms : List (Text × Value)) :
    Value.lookup k (Value.setMember k v ms) = some v := by
  induction ms with
  | nil => simp [Value.setMember, Value.lookup]
  | cons m rest ih =>
    obtain ⟨k', w⟩ := m
    by_cases h : k' = k
    · simp [Value.setMember, Value.lookup, h]
    · simp [Value.setMember, Value.lookup, h, ih]

end TermSnap
