import TermSnap.Screen.Cursor
/-!
# Scrolling one row at a time

`scrollWhileBelow` scrolls the long way: the top row moves to the bottom, its cells are blanked
one by one, and the cursor goes up a row. `scrolledBy s y j` is the screen after `j` such scrolls
in closed form, and `Screen.scroll` ends on it.
-/

namespace TermSnap.Screen

/-- Sets the first `n` cells of a row to blanks in colour `c`, one cell after another. -/
def blankOut (c : Value) : Nat → List Cell → List Cell
  | 0, row => row
  | n + 1, row => (blankOut c n row).set n ⟨.text " ", c⟩

/-- One scroll done the long way from cursor row `y`. -/
def scrollOnce (s : Screen) (y : Int) : Screen :=
  match s.rows with
  | [] => s
  | top :: rest => { s with rows := rest ++ [blankOut s.pen s.columns top], y := .int (y - 1) }

/-- Scrolls one row at a time while the cursor's row is an integer on or below the bottom row,
at most `n` times. -/
def scrollWhileBelow : Nat → Screen → Screen
  | 0, s => s
  | n + 1, s =>
    match s.y with
    | .int y => if s.lines ≤ y then scrollWhileBelow n (scrollOnce s y) else s
    | _ => s

theorem blankOut_eq (c : Value) (row : List Cell) :
    ∀ n, n ≤ row.length → blankOut c n row = List.replicate n ⟨.text " ", c⟩ ++ row.drop n
  | 0, _ => by simp [blankOut]
  | n + 1, h => by
    rw [blankOut, blankOut_eq c row n (by omega),
      List.set_append_right _ _ (by simp), List.length_replicate, Nat.sub_self,
      List.drop_eq_getElem_cons (by omega), List.set_cons_zero, List.replicate_succ',
      List.append_assoc, List.singleton_append]

theorem blankOut_length (c : Value) (row : List Cell) :
    blankOut c row.length row = List.replicate row.length ⟨.text " ", c⟩ := by
  rw [blankOut_eq c row row.length (Nat.le_refl _), List.drop_length, List.append_nil]

/-- The screen after `j` single scrolls from cursor row `y`, in closed form. -/
def scrolledBy (s : Screen) (y : Int) (j : Nat) : Screen :=
  { s with y := .int (y - j),
           rows := s.rows.drop j ++ List.replicate (min j s.rows.length) s.blankRow }

theorem blankOut_row (s : Screen) (row : List Cell) (h : row.length = s.columns) :
    blankOut s.pen s.columns row = s.blankRow := by
  rw [← h, blankOut_length, blankRow, h]

theorem length_blankRow (s : Screen) : s.blankRow.length = s.columns :=
  List.length_replicate ..

theorem columns_scrolledBy (s : Screen) (y : Int) (j : Nat) :
    (s.scrolledBy y j).columns = s.columns := rfl

theorem scrollOnce_cons (s : Screen) (y : Int) (top : List Cell) (rest : List (List Cell))
    (h : s.rows = top :: rest) :
    scrollOnce s y = { s with rows := rest ++ [blankOut s.pen s.columns top], y := .int (y - 1) } := by
  simp only [scrollOnce, h]

theorem scrollOnce_scrolledBy (s : Screen) (y : Int) (j : Nat) (hne : 0 < s.rows.length)
    (hcols : ∀ row ∈ s.rows, row.length = s.columns) :
    scrollOnce (s.scrolledBy y j) (y - j) = s.scrolledBy y (j + 1) := by
  by_cases hj : j < s.rows.length
  · have hrow := hcols _ (List.getElem_mem hj)
    have hr : (s.scrolledBy y j).rows =
        s.rows[j] :: (s.rows.drop (j + 1) ++ List.replicate (min j s.rows.length) s.blankRow) := by
      simp only [scrolledBy, List.drop_eq_getElem_cons hj, List.cons_append]
    rw [scrollOnce_cons _ _ _ _ hr, columns_scrolledBy,
      show (s.scrolledBy y j).pen = s.pen from rfl, blankOut_row s _ hrow]
    simp only [scrolledBy]
    rw [Nat.min_eq_left (Nat.le_of_lt hj), Nat.min_eq_left hj, List.append_assoc,
      ← List.replicate_succ']
    congr 2
    omega
  · have hd : s.rows.drop j = [] := List.drop_eq_nil_of_le (by omega)
    have hd' : s.rows.drop (j + 1) = [] := List.drop_eq_nil_of_le (by omega)
    have hm : min j s.rows.length = s.rows.length := Nat.min_eq_right (by omega)
    have hm' : min (j + 1) s.rows.length = s.rows.length := Nat.min_eq_right (by omega)
    obtain ⟨n, hn⟩ : ∃ n, s.rows.length = n + 1 := ⟨s.rows.length - 1, by omega⟩
    have hr : (s.scrolledBy y j).rows = s.blankRow :: List.replicate n s.blankRow := by
      simp only [scrolledBy, hd, List.nil_append]
      rw [hm, hn, List.replicate_succ]
    rw [scrollOnce_cons _ _ _ _ hr, columns_scrolledBy,
      show (s.scrolledBy y j).pen = s.pen from rfl, blankOut_row s _ (length_blankRow s),
      ← List.replicate_succ']
    simp only [scrolledBy, hd', List.nil_append]
    rw [hm', hn]
    congr 2
    omega

theorem scrollWhileBelow_of_lt (s : Screen) (y : Int) (hy : s.y = .int y) (h : y < s.lines) :
    ∀ n, scrollWhileBelow n s = s
  | 0 => rfl
  | n + 1 => by rw [scrollWhileBelow, hy]; exact if_neg (Int.not_le.mpr h)

theorem scrollWhileBelow_succ_of_le (s : Screen) (y : Int) (hy : s.y = .int y)
    (h : s.lines ≤ y) (n : Nat) :
    scrollWhileBelow (n + 1) s = scrollWhileBelow n (scrollOnce s y) := by
  rw [scrollWhileBelow, hy]; exact if_pos h

/-- From `j` scrolls done, with fuel enough, the loop ends on the closed form. -/
theorem scrollWhileBelow_scrolledBy (s : Screen) (y : Int) (hne : 0 < s.rows.length)
    (hcols : ∀ row ∈ s.rows, row.length = s.columns) :
    ∀ n j, j ≤ (y - s.lines + 1).toNat → (y - s.lines + 1).toNat ≤ j + n →
      scrollWhileBelow n (s.scrolledBy y j) = s.scrolledBy y (y - s.lines + 1).toNat
  | 0, j, _, h2 => by rw [show j = (y - s.lines + 1).toNat by omega]; rfl
  | n + 1, j, h1, h2 => by
    by_cases hj : j = (y - s.lines + 1).toNat
    · subst hj
      exact scrollWhileBelow_of_lt (s.scrolledBy y (y - s.lines + 1).toNat) _ rfl
        (show y - ((y - s.lines + 1).toNat : Nat) < s.lines by omega) _
    · rw [scrollWhileBelow_succ_of_le (s.scrolledBy y j) (y - j) rfl (show s.lines ≤ y - j by omega),
        scrollOnce_scrolledBy s y j hne hcols]
      exact scrollWhileBelow_scrolledBy s y hne hcols n (j + 1) (by omega) (by omega)

theorem scrolledBy_zero (s : Screen) (y : Int) (hy : s.y = .int y) : s.scrolledBy y 0 = s := by
  cases s
  simp only at hy
  subst hy
  simp [scrolledBy]

/-- With fuel for at least as many scrolls as the cursor is below the screen, the loop ends on
the closed form for that many scrolls. -/
theorem scrollWhileBelow_eq_scrolledBy (s : Screen) (y : Int) (hy : s.y = .int y)
    (hne : 0 < s.rows.length) (hcols : ∀ row ∈ s.rows, row.length = s.columns) (n : Nat)
    (hn : (y - s.lines + 1).toNat ≤ n) :
    scrollWhileBelow n s = s.scrolledBy y (y - s.lines + 1).toNat := by
  have h := scrollWhileBelow_scrolledBy s y hne hcols n 0 (Nat.zero_le _) (by omega)
  rwa [scrolledBy_zero s y hy] at h

theorem lines_of_int (s : Screen) (H : Int) (hH : s.height = .int H) : s.lines = H := by
  simp only [lines, hH, Value.asInt?, Option.getD_some]

/-- The one-step scroll gives the closed form for as many scrolls as the cursor is below. -/
theorem scroll_eq_scrolledBy (s : Screen) (y W H : Int) (hy : s.y = .int y)
    (hW : s.width = .int W) (hH : s.height = .int H) (hne : 0 < s.rows.length) :
    scroll s = .ok () (s.scrolledBy y (y - H + 1).toNat) := by
  obtain ⟨top, rest, hrows⟩ : ∃ top rest, s.rows = top :: rest := by
    cases h : s.rows with
    | nil => rw [h] at hne; exact absurd hne (Nat.lt_irrefl 0)
    | cons top rest => exact ⟨top, rest, rfl⟩
  have hl := lines_of_int s H hH
  have hb : s.width.rangeBound = .ok W := by rw [hW]; rfl
  have hc : (Value.int y).isAtLeast s.height = .ok (decide (H ≤ y)) := by
    rw [hH, Value.isAtLeast_int]
  by_cases h : H ≤ y
  · simp only [scroll, hc, decide_eq_true h, hrows, hb, hl, hy, Value.asInt?, scrollCount]
    rfl
  · rw [show (y - H + 1).toNat = 0 by omega, scrolledBy_zero s y hy]
    simp only [scroll, hy, hc, decide_eq_false h]

end TermSnap.Screen
