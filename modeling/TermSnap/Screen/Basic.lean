import TermSnap.Value.Order
import TermSnap.Value.Access
/-!
# Screens

A screen is a grid of cells, each a glyph and a colour, with a cursor and a pen colour, all values
of any sort as the commands pass them on. Rows and columns are indexed by signed integers, a
negative index counting from the end; the row index is checked first. `Screen.Step` may fail and
keeps what it changed before the fault.
-/

namespace TermSnap

/-- A position on the grid: its glyph and colour. -/
structure Cell where
  glyph : Value
  colour : Value
deriving Inhabited

def Cell.blank : Cell := ⟨.text " ", .null⟩

/-- The grid, its declared size, the cursor and the pen colour. -/
structure Screen where
  width : Value
  height : Value
  rows : List (List Cell)
  x : Value
  y : Value
  pen : Value
deriving Inhabited

/-- The position in a list of length `n` a signed index names, a negative one from the back. -/
def slot? (i : Int) (n : Nat) : Option Nat :=
  if 0 ≤ i then (if i < n then some i.toNat else none)
  else if -i ≤ n then some (n - (-i).toNat) else none

def listAt? {α : Type} (xs : List α) (i : Int) : Option α :=
  (slot? i xs.length).bind fun k => xs[k]?

def listSet? {α : Type} (xs : List α) (i : Int) (a : α) : Option (List α) :=
  (slot? i xs.length).map fun k => xs.set k a

/-- An operation on a screen that may fail, keeping what it changed before the fault. -/
abbrev Screen.Step := EStateM Fault Screen

def Value.pick {α : Type} (xs : List α) (v : Value) : Except Fault α := do
  let i ← v.index?
  match listAt? xs i with
  | some a => pure a
  | none => throw .indexOutOfRange

def Value.replace {α : Type} (xs : List α) (v : Value) (a : α) : Except Fault (List α) := do
  let i ← v.index?
  match listSet? xs i a with
  | some ys => pure ys
  | none => throw .indexOutOfRange

namespace Screen

/-- A blank screen of a declared width and height, as many rows as the height counts, each of
`w` blank cells, the cursor at the top left. -/
def blank (width height : Value) (w : Int) : Screen where
  width
  height
  rows := List.replicate (height.asInt?.getD 0).toNat (List.replicate w.toNat Cell.blank)
  x := .int 0
  y := .int 0
  pen := .null

/-- The screen of a declared size: the height must be an integer, and the width too when there is
a row. -/
def make (width height : Value) : Except Fault Screen := do
  let h ← height.rangeBound
  if h ≤ 0 then pure (blank width height 0)
  else
    let w ← width.rangeBound
    pure (blank width height w)

def lines (s : Screen) : Int := s.height.asInt?.getD 0

/-- How many cells a row has: the width as an integer, none when it is no positive integer. -/
def columns (s : Screen) : Nat := (s.width.asInt?.getD 0).toNat

def blankRow (s : Screen) : List Cell := List.replicate s.columns ⟨.text " ", s.pen⟩

/-- The cell at column `x` of row `y`; the row index is checked first. -/
def cell? (s : Screen) (x y : Value) : Except Fault Cell := do
  let row ← y.pick s.rows
  x.pick row

def setCell (s : Screen) (x y : Value) (c : Cell) : Except Fault Screen := do
  let row ← y.pick s.rows
  let row' ← x.replace row c
  let rows ← y.replace s.rows row'
  pure { s with rows }

/-- Puts a glyph in the pen colour at column `x` of row `y`. -/
def put (x y g : Value) : Step Unit := fun s =>
  match s.setCell x y ⟨g, s.pen⟩ with
  | .ok s' => .ok () s'
  | .error e => .error e s

def setPen (c : Value) : Step Unit := fun s => .ok () { s with pen := c }

/-- Places the cursor, with no bound and no check. -/
def place (x y : Value) : Step Unit := fun s => .ok () { s with x, y }

def rowTexts (s : Screen) : List Text :=
  s.rows.map fun row => row.flatMap fun c => c.glyph.toText

theorem slot?_lt {i : Int} {n k : Nat} (h : slot? i n = some k) : k < n := by
  unfold slot? at h
  split at h
  · split at h
    · simp only [Option.some.injEq] at h; omega
    · simp at h
  · split at h
    · simp only [Option.some.injEq] at h; omega
    · simp at h

end Screen

end TermSnap
