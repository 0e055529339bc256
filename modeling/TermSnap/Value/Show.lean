import TermSnap.Value.Basic
import TermSnap.Text.Quoted
import TermSnap.Number.Shortest
/-!
# Showing values

`Value.repr` is the literal form error messages use; `Value.toText` is the form printed output
uses, a text as itself and every other value in literal form.
-/

namespace TermSnap

namespace Value

mutual
/-- A value written the way error messages show it. -/
def repr : Value → String
  | null => "None"
  | bool b => if b then "True" else "False"
  | int n => toString n
  | float x => Number.showFloat x
  | str s => Text.quote s
  | array items => "[" ++ reprItems items ++ "]"
  | tuple [v] => "(" ++ repr v ++ ",)"
  | tuple items => "(" ++ reprItems items ++ ")"
  | object ms => "\x7b" ++ reprMembers ms ++ "\x7d"

def reprItems : List Value → String
  | [] => ""
  | [v] => repr v
  | v :: rest => repr v ++ ", " ++ reprItems rest

def reprMembers : List (Text × Value) → String
  | [] => ""
  | [(k, v)] => Text.quote k ++ ": " ++ repr v
  | (k, v) :: rest => Text.quote k ++ ": " ++ repr v ++ ", " ++ reprMembers rest
end

/-- A value as printed output shows it: a text as itself, anything else in literal form. -/
def toText : Value → Text
  | str s => s
  | v => Text.ofString v.repr

example : (array [int 1, text "a"]).repr = "[1, 'a']" := by cbv
example : (tuple [int 2]).repr = "(2,)" := by cbv
example : (object [(Text.ofString "k", null)]).repr = "\x7b'k': None\x7d" := by cbv

end Value

end TermSnap
