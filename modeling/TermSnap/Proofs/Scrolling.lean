import TermSnap.Screen.ScrollLoop
/-!
# Scrolling in one step

`Screen.move` does all its scrolls at once, dropping the top `k` rows and adding `k` blank rows;
this equals the row-at-a-time loop `scrollWhileBelow` given any fuel of at least `k`.
-/

namespace TermSnap.Screen

theorem columns_of_int (s : Screen) (W : Int) (hW : s.width = .int W) : s.columns = W.toNat := by
  simp only [columns, hW, Value.asInt?, Option.getD_some]

/-- A move, and the scroll loop after it, give the screen in closed form: the cursor at
`(x', y - k)`, the pen kept, the rows from `k` on followed by `k` blank rows. -/
theorem move_scroll_closed (s : Screen) (x0 y0 W H dx dy : Int) (hx : s.x = .int x0)
    (hy : s.y = .int y0) (hW : s.width = .int W) (hHv : s.height = .int H) (hH : 1 ≤ H)
    (hrows : s.rows.length = H.toNat) (hcols : ∀ row ∈ s.rows, row.length = W.toNat) :
    let x := x0 + dx
    let w : Int := if W ≤ x then 1 else 0
    let y := y0 + dy + w
    let k := max 0 (y - H + 1)
    let x' := if w = 1 ∨ x < 0 then 0 else x
    let final : Screen :=
      { s with
          x := .int x', y := .int (y - k),
          rows := s.rows.drop k.toNat ++
            List.replicate (min k.toNat H.toNat) (List.replicate W.toNat ⟨.text " ", s.pen⟩) }
    move (.int dx) (.int dy) s = .ok () final ∧
      ∀ n, k.toNat ≤ n → scrollWhileBelow n { s with x := .int x', y := .int y } = final := by
  intro x w y k x' final
  have hne : 0 < s.rows.length := by omega
  have hc := columns_of_int s W hW
  have hcols' : ∀ row ∈ s.rows, row.length = s.columns := by rw [hc]; exact hcols
  have hl := lines_of_int s H hHv
  have hk : (y - H + 1).toNat = k.toNat := by omega
  have hfinal : final =
      ({ s with x := .int x', y := .int y } : Screen).scrolledBy y (y - H + 1).toNat := by
    simp only [final, scrolledBy, blankRow, columns, hW, Value.asInt?, Option.getD_some, hrows, hk]
    congr 2
    omega
  refine ⟨?_, fun n hn => ?_⟩
  · have hmove : move (.int dx) (.int dy) s = scroll { s with x := .int x', y := .int y } := by
      by_cases hw : W ≤ x0 + dx
      · have hw1 : w = 1 := if_pos hw
        simp [move, hx, hy, hW, hw, x', hw1, x, y, Int.add_assoc]
      · have hw0 : w = 0 := if_neg hw
        by_cases hl : x0 + dx < 0
        · simp [move, hx, hy, hW, hw, x', hw0, x, y, hl]
        · simp [move, hx, hy, hW, hw, x', hw0, x, y, hl]
    rw [hmove, scroll_eq_scrolledBy { s with x := .int x', y := .int y } y W H rfl hW hHv hne, hfinal]
  · rw [hfinal]
    have h := scrollWhileBelow_eq_scrolledBy { s with x := .int x', y := .int y } y rfl hne hcols'
      n (by show (y - s.lines + 1).toNat ≤ n; rw [hl, hk]; exact hn)
    rwa [show ({ s with x := .int x', y := .int y } : Screen).lines = H from hl] at h

/-- A move one column right and three rows down on a blank two-by-two screen. -/
theorem move_scroll_closed_corner :
    let s : Screen := { blank (.int 2) (.int 2) 2 with x := .int 1, y := .int 1, pen := .int 3 }
    (s.x = .int 1 ∧ s.y = .int 1 ∧ s.width = .int 2 ∧ s.height = .int 2 ∧ 1 ≤ (2 : Int) ∧
      s.rows.length = (2 : Int).toNat ∧ (∀ row ∈ s.rows, row.length = (2 : Int).toNat)) ∧
    let x := 1 + 1
    let w : Int := if 2 ≤ x then 1 else 0
    let y := 1 + 3 + w
    let k := max 0 (y - 2 + 1)
    let x' := if w = 1 ∨ x < 0 then 0 else x
    let final : Screen :=
      { s with
          x := .int x', y := .int (y - k),
          rows := s.rows.drop k.toNat ++
            List.replicate (min k.toNat (2 : Int).toNat)
              (List.replicate (2 : Int).toNat ⟨.text " ", s.pen⟩) }
    move (.int 1) (.int 3) s = .ok () final ∧
      ∀ n, k.toNat ≤ n → scrollWhileBelow n { s with x := .int x', y := .int y } = final :=
  have hcols : ∀ row ∈ (blank (.int 2) (.int 2) 2).rows, row.length = (2 : Int).toNat := by
    simp [blank, Value.asInt?]
  ⟨⟨rfl, rfl, rfl, rfl, by decide, rfl, hcols⟩,
    move_scroll_closed { blank (.int 2) (.int 2) 2 with x := .int 1, y := .int 1, pen := .int 3 }
      1 1 2 2 1 3 rfl rfl rfl rfl (by decide) rfl hcols⟩

end TermSnap.Screen
