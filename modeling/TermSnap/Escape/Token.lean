import TermSnap.Text.Point
/-!
# Tokens of terminal output

Terminal output splits into tokens, each found by the first rule that fits at the start: an
operating-system command up to the first BEL, a control sequence of parameter, intermediate and
final characters, an escape of `ESC` and one character below U+0080, a run of printable ASCII,
a backspace, carriage return or line feed, or any other character as a stray.
-/

namespace TermSnap

/-- How a sequence starts: `ESC` and a bracket, or the single eight-bit character. -/
inductive Introducer where
  | sevenBit
  | eightBit
deriving Repr, DecidableEq

/-- A token of terminal output. -/
inductive Token where
  /-- An operating-system command, with what stands between introducer and BEL. -/
  | command (intro : Introducer) (payload : Text)
  /-- A control sequence. -/
  | control (intro : Introducer) (params intermediates : Text) (final : Point)
  /-- `ESC` and one character. -/
  | escape (c : Point)
  /-- A run of printable characters. -/
  | text (run : Text)
  | backspace
  | carriageReturn
  | lineFeed
  /-- A code point no rule takes. -/
  | stray (c : Point)
deriving Repr, DecidableEq

/-- The characters of an introducer whose bracket is `b`: `ESC` and the bracket, or the character
sixty-four code points above it. -/
def Introducer.spelling (b : Char) : Introducer → Text
  | .sevenBit => [.char '\x1b', .char b]
  | .eightBit => [.char (Char.ofNat (b.toNat + 0x40))]

namespace Token

def esc : Point := .char '\x1b'

def bel : Point := .char '\x07'

/-- Whether a code point is printable ASCII. -/
def isPrintable (c : Point) : Bool := 0x20 ≤ c.code && c.code ≤ 0x7E

/-- Whether a code point is a parameter character of a control sequence. -/
def isParam (c : Point) : Bool := 0x30 ≤ c.code && c.code ≤ 0x3F

def isIntermediate (c : Point) : Bool := 0x20 ≤ c.code && c.code ≤ 0x2F

def isFinal (c : Point) : Bool := 0x40 ≤ c.code && c.code ≤ 0x7E

/-- The code points a token stands for. -/
def spelling : Token → Text
  | command i p => i.spelling ']' ++ p ++ [bel]
  | control i ps is f => i.spelling '[' ++ ps ++ is ++ [f]
  | escape c => [esc, c]
  | text run => run
  | backspace => [.char '\x08']
  | carriageReturn => [.char '\r']
  | lineFeed => [.char '\n']
  | stray c => [c]

/-- An operating-system command after its introducer: its payload and what follows the BEL. -/
def commandBody (cs : Text) : Option (Text × Text) :=
  match cs.dropWhile (· != bel) with
  | _ :: rest => some (cs.takeWhile (· != bel), rest)
  | [] => none

/-- A control sequence after its introducer: parameters, intermediates, final character and
what follows. -/
def controlBody (cs : Text) : Option (Text × Text × Point × Text) :=
  let ps := cs.takeWhile isParam
  let r := cs.dropWhile isParam
  let is := r.takeWhile isIntermediate
  match r.dropWhile isIntermediate with
  | f :: rest => if isFinal f then some (ps, is, f, rest) else none
  | [] => none

/-- The token at the start of `c :: cs`, and the code points that follow it. -/
def first (c : Point) (cs : Text) : Token × Text :=
  if c = esc then
    match cs with
    | .char ']' :: r =>
      match commandBody r with
      | some (p, rest) => (command .sevenBit p, rest)
      | none => (escape (.char ']'), r)
    | .char '[' :: r =>
      match controlBody r with
      | some (ps, is, f, rest) => (control .sevenBit ps is f, rest)
      | none => (escape (.char '['), r)
    | d :: r => if d.code < 0x80 then (escape d, r) else (stray c, cs)
    | [] => (stray c, cs)
  else if c = .char '\x9d' then
    match commandBody cs with
    | some (p, rest) => (command .eightBit p, rest)
    | none => (stray c, cs)
  else if c = .char '\x9b' then
    match controlBody cs with
    | some (ps, is, f, rest) => (control .eightBit ps is f, rest)
    | none => (stray c, cs)
  else if isPrintable c then (text (c :: cs.takeWhile isPrintable), cs.dropWhile isPrintable)
  else if c = .char '\x08' then (backspace, cs)
  else if c = .char '\r' then (carriageReturn, cs)
  else if c = .char '\n' then (lineFeed, cs)
  else (stray c, cs)

theorem length_commandBody {cs p rest : Text} (h : commandBody cs = some (p, rest)) :
    rest.length < cs.length := by
  unfold commandBody at h
  split at h
  · rename_i x rest' hd
    simp only [Option.some.injEq, Prod.mk.injEq] at h
    obtain ⟨-, rfl⟩ := h
    have := (List.dropWhile_suffix (· != bel) (l := cs)).length_le
    rw [hd] at this; simp at this; omega
  · simp at h

theorem length_controlBody {cs ps is rest : Text} {f : Point}
    (h : controlBody cs = some (ps, is, f, rest)) : rest.length < cs.length := by
  unfold controlBody at h
  simp only at h
  split at h
  · rename_i f' rest' hd
    split at h
    · simp only [Option.some.injEq, Prod.mk.injEq] at h
      obtain ⟨-, -, -, rfl⟩ := h
      have h1 := (List.dropWhile_suffix isIntermediate (l := cs.dropWhile isParam)).length_le
      have h2 := (List.dropWhile_suffix isParam (l := cs)).length_le
      rw [hd] at h1; simp at h1; omega
    · simp at h
  · simp at h

theorem length_first (c : Point) (cs : Text) : (first c cs).2.length ≤ cs.length := by
  unfold first
  split
  · split
    · rename_i r
      split
      · rename_i p rest h; have := length_commandBody h; simp; omega
      · simp
    · rename_i r
      split
      · rename_i ps is f rest h; have := length_controlBody h; simp; omega
      · simp
    · split <;> simp
    · simp
  · split
    · split
      · rename_i p rest h; exact Nat.le_of_lt (length_commandBody h)
      · simp
    · split
      · split
        · rename_i ps is f rest h; exact Nat.le_of_lt (length_controlBody h)
        · simp
      · split
        · exact (List.dropWhile_suffix isPrintable).length_le
        · split
          · simp
          · split
            · simp
            · split <;> simp

/-- The tokens of a text, in order. -/
def scan : Text → List Token
  | [] => []
  | c :: cs =>
    have := length_first c cs
    (first c cs).1 :: scan (first c cs).2
termination_by cs => cs.length

end Token

end TermSnap
