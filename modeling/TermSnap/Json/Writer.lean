import TermSnap.Value.Show
/-!
# Writing JSON text

`Json.write` writes a value as ASCII JSON text: strings quoted with short escapes where JSON has
them and `\u` escapes elsewhere, integers in decimal, doubles in their shortest form.
-/

namespace TermSnap.Json

def unitEscape (n : Nat) : List Char := '\\' :: 'u' :: Text.hexDigits 4 n

/-- The characters that stand for a code point inside a JSON string. -/
def escapePoint (p : Point) : List Char :=
  match p with
  | .char '"' => ['\\', '"']
  | .char '\\' => ['\\', '\\']
  | .char '\x08' => ['\\', 'b']
  | .char '\x0c' => ['\\', 'f']
  | .char '\n' => ['\\', 'n']
  | .char '\r' => ['\\', 'r']
  | .char '\t' => ['\\', 't']
  | .char c =>
    if 0x20 ≤ c.toNat ∧ c.toNat < 0x7F then [c]
    else if c.toNat < 0x10000 then unitEscape c.toNat
    else
      let m := c.toNat - 0x10000
      unitEscape (0xD800 + m / 0x400) ++ unitEscape (0xDC00 + m % 0x400)
  | .surrogate _ => unitEscape p.code

/-- A text as a JSON string. -/
def writeText (t : Text) : String :=
  String.ofList ('"' :: t.flatMap escapePoint ++ ['"'])

/-- A double as a JSON number, or the name of a value JSON has no numeral for. -/
def writeFloat (x : Float) : String :=
  if x.isNaN then "NaN"
  else if x.isInf then (if x < 0 then "-Infinity" else "Infinity")
  else Number.showFloat x

mutual
/-- A value as JSON text. -/
def write : Value → String
  | .null => "null"
  | .bool b => if b then "true" else "false"
  | .int n => toString n
  | .float x => writeFloat x
  | .str s => writeText s
  | .array items => "[" ++ writeItems items ++ "]"
  | .tuple items => "[" ++ writeItems items ++ "]"
  | .object ms => "\x7b" ++ writeMembers ms ++ "\x7d"

def writeItems : List Value → String
  | [] => ""
  | [v] => write v
  | v :: rest => write v ++ ", " ++ writeItems rest

def writeMembers : List (Text × Value) → String
  | [] => ""
  | [(k, v)] => writeText k ++ ": " ++ write v
  | (k, v) :: rest => writeText k ++ ": " ++ write v ++ ", " ++ writeMembers rest
end

example : write (.array [.null, .text "a\"b", .str [.surrogate 0]]) =
    "[null, \"a\\\"b\", \"\\ud800\"]" := by cbv
example : writeText (Text.ofString "é😀") = "\"\\u00e9\\ud83d\\ude00\"" := by cbv

end TermSnap.Json
