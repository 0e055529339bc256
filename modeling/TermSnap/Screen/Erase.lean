import TermSnap.Screen.Basic
/-!
# Erasing

An erase blanks cells in the pen colour: `""` or `"0"` from the cursor on, `"1"` before it, and
anything else everything. On the cursor's row it blanks a run of columns; an erase of the screen
then blanks whole rows. Cells are blanked in order, so a fault keeps those before it.
-/

namespace TermSnap.Screen

/-- Fails with the fault of a computation that failed, changing nothing. -/
def lift {α : Type} : Except Fault α → Step α
  | .ok a => pure a
  | .error e => throw e

theorem toNat_sub_succ_lt {a b : Int} (h : a < b) : (b - (a + 1)).toNat < (b - a).toNat := by
  omega

/-- Blanks the cells of row `y` from column `x0` up to, not including, column `x1`. -/
def blankRun (y : Value) (x0 x1 : Int) : Step Unit :=
  if h : x0 < x1 then do
    put (.int x0) y (.text " ")
    blankRun y (x0 + 1) x1
  else pure ()
termination_by (x1 - x0).toNat
decreasing_by exact toNat_sub_succ_lt h

/-- Blanks the rows from `y0` up to `y1`, each over the screen's width. -/
def blankRows (y0 y1 : Int) : Step Unit := fun s =>
  if h : y0 < y1 then
    match s.width.rangeBound with
    | .error e => .error e s
    | .ok w =>
      if w ≤ 0 then .ok () s
      else (do blankRun (.int y0) 0 w; blankRows (y0 + 1) y1) s
  else .ok () s
termination_by (y1 - y0).toNat
decreasing_by exact toNat_sub_succ_lt h

/-- The bounds of an erase with parameter `param`: the columns blanked on the cursor's row and
the rows blanked after it. -/
def eraseBounds (s : Screen) (param : Value) : Except Fault (Value × Value × Value × Value) :=
  if param.isText "0" || param.isText "" then do
    let below ← s.y.add .binary (.int 1)
    pure (s.x, s.width, below, s.height)
  else if param.isText "1" then do
    let above ← s.y.sub (.int 1)
    pure (.int 0, s.x, .int 0, above)
  else pure (.int 0, s.width, .int 0, s.height)

/-- Erases part of the line, for the function `K`, or of the screen, for any other function. -/
def erase (function param : Value) : Step Unit := do
  let s ← get
  let (x0, x1, y0, y1) ← lift (eraseBounds s param)
  let x0 ← lift x0.rangeBound
  let x1 ← lift x1.rangeBound
  blankRun s.y x0 x1
  if function.isText "K" then pure ()
  else do
    let y0 ← lift y0.rangeBound
    let y1 ← lift y1.rangeBound
    blankRows y0 y1

end TermSnap.Screen
