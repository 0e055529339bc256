import TermSnap.Screen.Basic
/-!
# Cursor motion

`Screen.move dx dy` moves the column by `dx`, to column 0 and one row further at or past the right
edge and stopping at column 0 on the left, then the row by `dy`, each step by `Value` arithmetic in
this order. On or below the bottom row the screen scrolls, a blank row in the pen colour added
for each row dropped, until the cursor is above the bottom edge.
-/

namespace TermSnap.Screen

/-- The rows after `k` scrolls: the rows left over, then blank rows. -/
def scrolledRows (s : Screen) (k : Nat) : List (List Cell) :=
  s.rows.drop k ++ List.replicate (min k s.rows.length) s.blankRow

/-- How many scrolls bring a cursor row `y` above the bottom edge, and the row it ends on. -/
def scrollCount (height : Int) (y : Value) : Option (Nat × Value) :=
  match y.asInt?, y with
  | some n, _ => some ((n - height + 1).toNat, .int (n - (n - height + 1).toNat))
  | none, .float x =>
    (Number.ceil? (-x)).map fun c =>
      let k := (-c - height + 1).toNat
      (k, .float (x - Float.ofNat k))
  | none, _ => none

/-- Scrolls while the cursor is on or below the bottom row. -/
def scroll : Step Unit := fun s =>
  match s.y.isAtLeast s.height with
  | .error e => .error e s
  | .ok false => .ok () s
  | .ok true =>
    match s.rows with
    | [] => .error .popFromEmpty s
    | top :: rest =>
      match s.width.rangeBound with
      | .error e => .error e { s with rows := rest ++ [top] }
      | .ok _ =>
        match scrollCount s.lines s.y with
        | some (k, y) => .ok () { s with rows := s.scrolledRows k, y }
        | none => .ok () s

/-- Moves the cursor by `dx` columns and `dy` rows, wrapping at the right edge, stopping at the
left edge and scrolling at the bottom. -/
def move (dx dy : Value) : Step Unit := fun s =>
  match s.x.add .augmented dx with
  | .error e => .error e s
  | .ok x =>
    let s := { s with x }
    match x.isAtLeast s.width with
    | .error e => .error e s
    | .ok wrap =>
      let s := if wrap then { s with x := .int 0 } else s
      match (if wrap then dy.add .augmented (.int 1) else .ok dy) with
      | .error e => .error e s
      | .ok dy =>
        match s.x.isBelow (.int 0) with
        | .error e => .error e s
        | .ok left =>
          let s := if left then { s with x := .int 0 } else s
          match s.y.add .augmented dy with
          | .error e => .error e s
          | .ok y => scroll { s with y }

theorem length_scrolledRows (s : Screen) (k : Nat) :
    (s.scrolledRows k).length = s.rows.length := by
  simp only [scrolledRows, List.length_append, List.length_drop, List.length_replicate]
  omega

end TermSnap.Screen
