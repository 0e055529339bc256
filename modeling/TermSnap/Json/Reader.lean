import TermSnap.Value.Basic
import TermSnap.Text.Numeral
/-!
# Reading JSON text

`parse` reads a whole document into a `Value`, or reports the first problem with its line, column
and offset. Each reader hands back what remains with a proof that it is no longer, which makes the
mutually recursive readers terminate. `NaN` and the infinities are accepted, a lone escaped
surrogate is kept, and an integer of more than `Text.digitLimit` digits is refused.
-/

namespace TermSnap.Json

/-- What is wrong at the place where reading stopped. -/
inductive Problem where
  | expectingValue
  | expectingComma
  | expectingColon
  | expectingName
  | unterminated
  | controlCharacter
  | badEscape
  | badUnicodeEscape
  | extraData
  | byteOrderMark
deriving Repr, DecidableEq

def Problem.text : Problem → String
  | .expectingValue => "Expecting value"
  | .expectingComma => "Expecting ',' delimiter"
  | .expectingColon => "Expecting ':' delimiter"
  | .expectingName => "Expecting property name enclosed in double quotes"
  | .unterminated => "Unterminated string starting at"
  | .controlCharacter => "Invalid control character at"
  | .badEscape => "Invalid \\escape"
  | .badUnicodeEscape => "Invalid \\uXXXX escape"
  | .extraData => "Extra data"
  | .byteOrderMark => "Unexpected UTF-8 BOM (decode using utf-8-sig)"

/-- A place in a text: line and column counted from one, offset in characters from zero. -/
structure Place where
  line : Nat
  column : Nat
  offset : Nat
deriving Repr, DecidableEq

/-- The place of an offset: lines end at line feeds. -/
def Place.of (text : Text) (offset : Nat) : Place :=
  let before := text.take offset
  ⟨before.count (.char '\n') + 1, (before.reverse.takeWhile (· != .char '\n')).length + 1,
    offset⟩

/-- Why a text is not read as a value. -/
inductive Failure where
  /-- A syntax problem at a place. -/
  | malformed (problem : Problem) (place : Place)
  /-- An integer with this many digits, more than the limit. -/
  | tooManyDigits (count : Nat)
deriving Repr

def Failure.describe (problem : Problem) (place : Place) : String :=
  problem.text ++ ": line " ++ toString place.line ++ " column " ++ toString place.column ++
    " (char " ++ toString place.offset ++ ")"

/-- The whole text being read, and its length. -/
structure Source where
  chars : Text
  size : Nat

def Source.offset (src : Source) (rest : Text) : Nat := src.size - rest.length

def Source.fail (src : Source) (p : Problem) (rest : Text) : Failure :=
  .malformed p (Place.of src.chars (src.offset rest))

def Source.failAt (src : Source) (p : Problem) (offset : Nat) : Failure :=
  .malformed p (Place.of src.chars offset)

/-- What remains after reading at least one character of `cs`. -/
abbrev Shorter (cs : Text) := { r : Text // r.length < cs.length }

/-- What remains after reading some characters of `cs`, perhaps none. -/
abbrev NoLonger (cs : Text) := { r : Text // r.length ≤ cs.length }

def isSpace (p : Point) : Bool := p.is ' ' || p.is '\t' || p.is '\n' || p.is '\r'

def skipSpace (cs : Text) : NoLonger cs :=
  ⟨cs.dropWhile isSpace, (List.dropWhile_suffix isSpace).length_le⟩

theorem length_lt_cons (p : Point) (r : Text) : r.length < (p :: r).length :=
  Nat.lt_succ_self r.length

def peel (c : Char) : (cs : Text) → Option (Shorter cs)
  | d :: r => if d = .char c then some ⟨r, length_lt_cons d r⟩ else none
  | [] => none

def hexValue? (p : Point) : Option Nat :=
  let n := p.code
  if 48 ≤ n ∧ n ≤ 57 then some (n - 48)
  else if 97 ≤ n ∧ n ≤ 102 then some (n - 87)
  else if 65 ≤ n ∧ n ≤ 70 then some (n - 55)
  else none

def hex4? (a b c d : Point) : Option Nat :=
  match hexValue? a, hexValue? b, hexValue? c, hexValue? d with
  | some w, some x, some y, some z => some (((w * 16 + x) * 16 + y) * 16 + z)
  | _, _, _, _ => none

/-- The code point of a code unit that is not part of a pair; a surrogate stays alone. -/
def unitPoint (u : Nat) : Point := Point.ofCode u

def pairPoint (hi lo : Nat) : Point :=
  .char (Char.ofNat (0x10000 + (hi - 0xD800) * 0x400 + (lo - 0xDC00)))

def simpleEscape? : Point → Option Point
  | .char '"' => some (.char '"')
  | .char '\\' => some (.char '\\')
  | .char '/' => some (.char '/')
  | .char 'b' => some (.char '\x08')
  | .char 'f' => some (.char '\x0c')
  | .char 'n' => some (.char '\n')
  | .char 'r' => some (.char '\r')
  | .char 't' => some (.char '\t')
  | _ => none

/-- Reads the code points of a string after its opening quote up to the closing quote, gathered
in reverse in `acc`. -/
def stringBody (src : Source) (start : Nat) (acc : Text) :
    (cs : Text) → Except Failure (Text × Shorter cs)
  | [] => .error (src.failAt .unterminated start)
  | .char '"' :: r => .ok (acc.reverse, ⟨r, length_lt_cons _ r⟩)
  | .char '\\' :: [] => .error (src.failAt .unterminated start)
  | .char '\\' :: .char 'u' :: r =>
    match r with
    | a :: b :: c :: d :: e :: rest =>
      match hex4? a b c d with
      | none => .error (src.fail .badUnicodeEscape (.char 'u' :: r))
      | some u =>
        if 0xD800 ≤ u ∧ u < 0xDC00 then
          match rest with
          | a2 :: b2 :: c2 :: d2 :: e2 :: f :: rest2 =>
            if e = .char '\\' ∧ a2 = .char 'u' then
              match hex4? b2 c2 d2 e2 with
              | none =>
                .error (src.fail .badUnicodeEscape (a2 :: b2 :: c2 :: d2 :: e2 :: f :: rest2))
              | some v =>
                if 0xDC00 ≤ v ∧ v < 0xE000 then
                  match stringBody src start (pairPoint u v :: acc) (f :: rest2) with
                  | .ok (s, ⟨r', h⟩) => .ok (s, ⟨r', by simp at h ⊢; omega⟩)
                  | .error err => .error err
                else
                  match stringBody src start (unitPoint u :: acc)
                      (e :: a2 :: b2 :: c2 :: d2 :: e2 :: f :: rest2) with
                  | .ok (s, ⟨r', h⟩) => .ok (s, ⟨r', by simp at h ⊢; omega⟩)
                  | .error err => .error err
            else
              match stringBody src start (unitPoint u :: acc)
                  (e :: a2 :: b2 :: c2 :: d2 :: e2 :: f :: rest2) with
              | .ok (s, ⟨r', h⟩) => .ok (s, ⟨r', by simp at h ⊢; omega⟩)
              | .error err => .error err
          | rest =>
            match stringBody src start (unitPoint u :: acc) (e :: rest) with
            | .ok (s, ⟨r', h⟩) => .ok (s, ⟨r', by simp at h ⊢; omega⟩)
            | .error err => .error err
        else
          match stringBody src start (unitPoint u :: acc) (e :: rest) with
          | .ok (s, ⟨r', h⟩) => .ok (s, ⟨r', by simp at h ⊢; omega⟩)
          | .error err => .error err
    | _ => .error (src.fail .badUnicodeEscape (.char 'u' :: r))
  | .char '\\' :: c :: r =>
    match simpleEscape? c with
    | none => .error (src.fail .badEscape (.char '\\' :: c :: r))
    | some e =>
      match stringBody src start (e :: acc) r with
      | .ok (s, ⟨r', h⟩) => .ok (s, ⟨r', by simp at h ⊢; omega⟩)
      | .error err => .error err
  | c :: r =>
    if c.code ≤ 0x1F then .error (src.fail .controlCharacter (c :: r))
    else
      match stringBody src start (c :: acc) r with
      | .ok (s, ⟨r', h⟩) => .ok (s, ⟨r', by simp at h ⊢; omega⟩)
      | .error err => .error err
termination_by cs => cs.length

def isAsciiDigit (p : Point) : Bool := 48 ≤ p.code && p.code ≤ 57

/-- The parts of a number: sign, integer digits, fraction digits, exponent, and their size; a
point or exponent mark with no digit after it is left unread. -/
structure NumberText where
  negative : Bool
  whole : Text
  fraction : Option Text
  exponent : Option (Bool × Text)
  size : Nat

def exponentPart : Text → Option (Bool × Text) × Nat
  | e :: r =>
    if e = .char 'e' ∨ e = .char 'E' then
      let (negative, signSize, afterSign) : Bool × Nat × Text := match r with
        | .char '-' :: s => (true, 1, s)
        | .char '+' :: s => (false, 1, s)
        | s => (false, 0, s)
      let ds := afterSign.takeWhile isAsciiDigit
      if ds.isEmpty then (none, 0) else (some (negative, ds), 1 + signSize + ds.length)
    else (none, 0)
  | [] => (none, 0)

def fractionPart : Text → Option Text
  | .char '.' :: d :: r => if isAsciiDigit d then some (d :: r.takeWhile isAsciiDigit) else none
  | _ => none

/-- Splits a number into its parts; `none` when no integer part follows the optional minus. -/
def NumberText.split (cs : Text) : Option NumberText :=
  let (negative, body) : Bool × Text := match cs with
    | .char '-' :: r => (true, r)
    | r => (false, r)
  let whole? : Option Text := match body with
    | c :: r =>
      if c = .char '0' then some [.char '0']
      else if isAsciiDigit c then some (c :: r.takeWhile isAsciiDigit)
      else none
    | [] => none
  whole?.map fun whole =>
    let r1 := body.drop whole.length
    let fraction := fractionPart r1
    let fractionSize := match fraction with
      | some f => f.length + 1
      | none => 0
    let (exponent, exponentSize) := exponentPart (r1.drop fractionSize)
    ⟨negative, whole, fraction, exponent,
      (if negative then 1 else 0) + whole.length + fractionSize + exponentSize⟩

def asciiValue (ds : Text) : Nat := Text.digitsValue (ds.map fun d => d.code - 48)

/-- The value of a number's parts: an integer, or a double with a fraction or an exponent. -/
def NumberText.value (t : NumberText) : Except Failure Value :=
  match t.fraction, t.exponent with
  | none, none =>
    if Text.digitLimit < t.whole.length then .error (.tooManyDigits t.whole.length)
    else
      let n : Int := asciiValue t.whole
      .ok (.int (if t.negative then -n else n))
  | fraction, exponent =>
    let fs := fraction.getD []
    let k : Int := match exponent with
      | some (negative, ds) => if negative then -(asciiValue ds : Int) else asciiValue ds
      | none => 0
    let x := Text.scaleTen (asciiValue (t.whole ++ fs)) (k - fs.length)
    .ok (.float (if t.negative then -x else x))

def readNumber (src : Source) (cs : Text) : Except Failure (Value × Shorter cs) :=
  match NumberText.split cs with
  | none => .error (src.fail .expectingValue cs)
  | some t =>
    if h : 0 < t.size ∧ 0 < cs.length then
      match t.value with
      | .ok v => .ok (v, ⟨cs.drop t.size, by rw [List.length_drop]; omega⟩)
      | .error e => .error e
    else .error (src.fail .expectingValue cs)

theorem length_lt_after (c : Point) (w r : Text) : r.length < (c :: w ++ r).length := by
  rw [List.cons_append, List.length_cons, List.length_append]
  omega

mutual
/-- Reads one value at the start of `cs`. -/
def readValue (src : Source) : (cs : Text) → Except Failure (Value × Shorter cs)
  | .char '"' :: r =>
    match stringBody src (src.offset (.char '"' :: r)) [] r with
    | .ok (s, ⟨r', h⟩) => .ok (.str s, ⟨r', Nat.lt_succ_of_lt h⟩)
    | .error e => .error e
  | .char '[' :: r =>
    match readItemsOpen src r with
    | .ok (v, ⟨r', h⟩) => .ok (v, ⟨r', Nat.lt_succ_of_le h⟩)
    | .error e => .error e
  | .char '{' :: r =>
    match readMembersOpen src r with
    | .ok (v, ⟨r', h⟩) => .ok (v, ⟨r', Nat.lt_succ_of_le h⟩)
    | .error e => .error e
  | .char 'n' :: .char 'u' :: .char 'l' :: .char 'l' :: r =>
    .ok (.null, ⟨r, length_lt_after (.char 'n') [.char 'u', .char 'l', .char 'l'] r⟩)
  | .char 't' :: .char 'r' :: .char 'u' :: .char 'e' :: r =>
    .ok (.bool true, ⟨r, length_lt_after (.char 't') [.char 'r', .char 'u', .char 'e'] r⟩)
  | .char 'f' :: .char 'a' :: .char 'l' :: .char 's' :: .char 'e' :: r =>
    .ok (.bool false, ⟨r, length_lt_after (.char 'f') [.char 'a', .char 'l', .char 's', .char 'e'] r⟩)
  | .char 'N' :: .char 'a' :: .char 'N' :: r =>
    .ok (.float (0 / 0), ⟨r, length_lt_after (.char 'N') [.char 'a', .char 'N'] r⟩)
  | .char 'I' :: .char 'n' :: .char 'f' :: .char 'i' :: .char 'n' :: .char 'i' :: .char 't' :: .char 'y' :: r =>
    .ok (.float (1 / 0), ⟨r, length_lt_after (.char 'I') [.char 'n', .char 'f', .char 'i', .char 'n', .char 'i', .char 't', .char 'y'] r⟩)
  | .char '-' :: .char 'I' :: .char 'n' :: .char 'f' :: .char 'i' :: .char 'n' :: .char 'i' :: .char 't' :: .char 'y' :: r =>
    .ok (.float (-(1 / 0)), ⟨r, length_lt_after (.char '-') [.char 'I', .char 'n', .char 'f', .char 'i', .char 'n', .char 'i', .char 't', .char 'y'] r⟩)
  | cs => readNumber src cs
termination_by cs => 3 * cs.length
decreasing_by all_goals (rw [List.length_cons]; omega)

def readItemsOpen (src : Source) (cs : Text) : Except Failure (Value × NoLonger cs) :=
  let ⟨s, hs⟩ := skipSpace cs
  match peel ']' s with
  | some ⟨r, h⟩ => .ok (.array [], ⟨r, by omega⟩)
  | none =>
    match readItems src s [] with
    | .ok (v, ⟨r', h'⟩) => .ok (v, ⟨r', by omega⟩)
    | .error e => .error e
termination_by 3 * cs.length + 2
decreasing_by all_goals omega

/-- Reads an item and what follows it; `acc` holds the earlier items in reverse. -/
def readItems (src : Source) (cs : Text) (acc : List Value) :
    Except Failure (Value × NoLonger cs) :=
  match readValue src cs with
  | .error e => .error e
  | .ok (v, ⟨r, h⟩) =>
    let ⟨s, hs⟩ := skipSpace r
    match peel ']' s with
    | some ⟨r', h'⟩ => .ok (.array (v :: acc).reverse, ⟨r', by omega⟩)
    | none =>
      match peel ',' s with
      | some ⟨r', h'⟩ =>
        let ⟨r'', h''⟩ := skipSpace r'
        match readItems src r'' (v :: acc) with
        | .ok (w, ⟨r3, h3⟩) => .ok (w, ⟨r3, by omega⟩)
        | .error e => .error e
      | none => .error (src.fail .expectingComma s)
termination_by 3 * cs.length + 1
decreasing_by all_goals omega

def readMembersOpen (src : Source) (cs : Text) : Except Failure (Value × NoLonger cs) :=
  let ⟨s, hs⟩ := skipSpace cs
  match peel '}' s with
  | some ⟨r, h⟩ => .ok (.object [], ⟨r, by omega⟩)
  | none =>
    match readMembers src s [] with
    | .ok (v, ⟨r', h'⟩) => .ok (v, ⟨r', by omega⟩)
    | .error e => .error e
termination_by 3 * cs.length + 2
decreasing_by all_goals omega

/-- Reads a member and what follows it; `acc` holds the earlier members in order. -/
def readMembers (src : Source) (cs : Text) (acc : List (Text × Value)) :
    Except Failure (Value × NoLonger cs) :=
  match peel '"' cs with
  | none => .error (src.fail .expectingName cs)
  | some ⟨r, h⟩ =>
    match stringBody src (src.offset cs) [] r with
    | .error e => .error e
    | .ok (k, ⟨r1, h1⟩) =>
      let ⟨s1, hs1⟩ := skipSpace r1
      match peel ':' s1 with
      | none => .error (src.fail .expectingColon s1)
      | some ⟨r2, h2⟩ =>
        let ⟨r3, h3⟩ := skipSpace r2
        match readValue src r3 with
        | .error e => .error e
        | .ok (v, ⟨r4, h4⟩) =>
          let acc' := Value.setMember k v acc
          let ⟨s4, hs4⟩ := skipSpace r4
          match peel '}' s4 with
          | some ⟨r5, h5⟩ => .ok (.object acc', ⟨r5, by omega⟩)
          | none =>
            match peel ',' s4 with
            | none => .error (src.fail .expectingComma s4)
            | some ⟨r5, h5⟩ =>
              let ⟨r6, h6⟩ := skipSpace r5
              match readMembers src r6 acc' with
              | .ok (w, ⟨r7, h7⟩) => .ok (w, ⟨r7, by omega⟩)
              | .error e => .error e
termination_by 3 * cs.length + 1
decreasing_by all_goals omega
end

/-- Reads a whole text as one value with only whitespace around it. -/
def parse (cs : Text) : Except Failure Value :=
  let src : Source := ⟨cs, cs.length⟩
  match cs with
  | .char '﻿' :: _ => .error (src.failAt .byteOrderMark 0)
  | _ =>
    match readValue src (skipSpace cs).1 with
    | .error e => .error e
    | .ok (v, ⟨r, _⟩) =>
      match (skipSpace r).1 with
      | [] => .ok v
      | r' => .error (src.fail .extraData r')

end TermSnap.Json
