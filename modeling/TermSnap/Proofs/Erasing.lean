import TermSnap.Proofs.Acceptance
/-!
# Erasing

On a screen with the cursor on it, an erase blanks in the pen colour exactly the cells of one
region and changes nothing else (`Screen.erase_blanks_region`). Regions are `Screen.blankWhere`
blankings, which compose by joining. The rows blanked above the cursor stop one short of it, so
the two halves of a screen erase miss the row just above the cursor.
-/

namespace TermSnap

namespace Screen

/-- The screen with the cell at column `c` of row `r` blanked wherever `region c r` holds. -/
def blankWhere (s : Screen) (region : Nat → Nat → Bool) : Screen :=
  { s with rows := s.rows.mapIdx fun r row =>
      row.mapIdx fun c cell => if region c r then ⟨.text " ", s.pen⟩ else cell }

section

variable {W H : Nat} {s : Screen}

@[simp] theorem blankWhere_pen (s : Screen) (region : Nat → Nat → Bool) :
    (s.blankWhere region).pen = s.pen := rfl

@[simp] theorem blankWhere_x (s : Screen) (region : Nat → Nat → Bool) :
    (s.blankWhere region).x = s.x := rfl

@[simp] theorem blankWhere_y (s : Screen) (region : Nat → Nat → Bool) :
    (s.blankWhere region).y = s.y := rfl

theorem blankWhere_blankWhere (s : Screen) (A B : Nat → Nat → Bool) :
    (s.blankWhere A).blankWhere B = s.blankWhere fun c r => A c r || B c r := by
  simp only [blankWhere, List.mapIdx_mapIdx]
  congr 2
  funext r row
  simp only [Function.comp_apply, List.mapIdx_mapIdx]
  congr 1
  funext c cell
  by_cases hA : A c r <;> by_cases hB : B c r <;> simp [hA, hB]

theorem blankWhere_false (s : Screen) : s.blankWhere (fun _ _ => false) = s := by
  have hrow (row : List Cell) : row.mapIdx (fun _ cell => cell) = row :=
    List.ext_getElem (by simp) (by simp)
  have hrows : s.rows.mapIdx (fun _ row => row.mapIdx fun _ cell => cell) = s.rows :=
    List.ext_getElem (by simp) (by simp [hrow])
  simp [blankWhere, hrows]

theorem blankWhere_congr (hs : s.Shaped W H) {A B : Nat → Nat → Bool}
    (h : ∀ c r, c < W → r < H → A c r = B c r) : s.blankWhere A = s.blankWhere B := by
  simp only [blankWhere, Screen.mk.injEq, and_true, true_and]
  apply List.ext_getElem (by simp)
  intro r h1 _
  rw [List.length_mapIdx] at h1
  simp only [List.getElem_mapIdx]
  have hrow := hs.cols s.rows[r] (List.getElem_mem _)
  apply List.ext_getElem (by simp)
  intro c h3 _
  rw [List.length_mapIdx, hrow] at h3
  simp only [List.getElem_mapIdx]
  rw [h c r h3 (hs.rows ▸ h1)]

theorem Shaped.blankWhere (hs : s.Shaped W H) (region : Nat → Nat → Bool) :
    (s.blankWhere region).Shaped W H where
  width := hs.width
  height := hs.height
  rows := by simp [Screen.blankWhere, hs.rows]
  cols := by
    intro row hrow
    simp only [Screen.blankWhere, List.mem_mapIdx] at hrow
    obtain ⟨r, hr, rfl⟩ := hrow
    rw [List.length_mapIdx]
    exact hs.cols _ (List.getElem_mem _)

/-! ### Setting a cell, a run of cells and whole rows -/

theorem pick_nat {α : Type} (xs : List α) {i : Nat} (h : i < xs.length)
    (hn : xs.length < Nat.pow 2 63) : (Value.int i).pick xs = .ok xs[i] := by
  have h63 : Nat.pow 2 63 = 9223372036854775808 := rfl
  unfold Value.pick
  rw [Value.index?_of_bounds (by omega) (by omega), Except.ok_bind]
  have hat : listAt? xs i = some xs[i] := by
    simp [listAt?, slot?, h]
  rw [hat]
  rfl

theorem replace_nat {α : Type} (xs : List α) {i : Nat} (h : i < xs.length)
    (hn : xs.length < Nat.pow 2 63) (a : α) : (Value.int i).replace xs a = .ok (xs.set i a) := by
  have h63 : Nat.pow 2 63 = 9223372036854775808 := rfl
  unfold Value.replace
  rw [Value.index?_of_bounds (by omega) (by omega), Except.ok_bind]
  have hset : listSet? xs i a = some (xs.set i a) := by
    simp [listSet?, slot?, h]
  rw [hset]
  rfl

theorem setCell_nat (hs : s.Shaped W H) (hW : W < Nat.pow 2 63) (hH : H < Nat.pow 2 63) {x y : Nat}
    (hxW : x < W) (hyH : y < H) (c : Cell) :
    ∃ hy : y < s.rows.length, s.setCell (.int x) (.int y) c =
      .ok { s with rows := s.rows.set y (s.rows[y].set x c) } := by
  have hlen := hs.rows
  have hy : y < s.rows.length := by rw [hs.rows]; exact hyH
  have hrow := hs.cols s.rows[y] (List.getElem_mem hy)
  refine ⟨hy, ?_⟩
  unfold setCell
  rw [pick_nat s.rows hy (by omega), Except.ok_bind,
    replace_nat s.rows[y] (by omega) (by omega), Except.ok_bind,
    replace_nat s.rows hy (by omega), Except.ok_bind]
  rfl

theorem put_of_setCell {x y g : Value} {s' : Screen} (h : s.setCell x y ⟨g, s.pen⟩ = .ok s') :
    put x y g s = .ok () s' := by
  unfold put
  rw [h]

theorem set_blank_eq {x y : Nat} (hy : y < s.rows.length) :
    s.rows.set y (s.rows[y].set x ⟨.text " ", s.pen⟩) =
      (s.blankWhere fun c r => decide (c = x ∧ r = y)).rows := by
  apply List.ext_getElem (by simp [blankWhere])
  intro r h1 h2
  simp only [blankWhere]
  rw [List.getElem_set, List.getElem_mapIdx]
  by_cases hr : y = r
  · subst hr
    rw [if_pos rfl]
    apply List.ext_getElem (by simp)
    intro c h3 h4
    rw [List.getElem_set, List.getElem_mapIdx]
    by_cases hc : x = c
    · subst hc
      simp
    · simp [hc, Ne.symm hc]
  · rw [if_neg hr]
    apply List.ext_getElem (by simp)
    intro c h3 h4
    simp [List.getElem_mapIdx, Ne.symm hr]

theorem put_blank (hs : s.Shaped W H) (hW : W < Nat.pow 2 63) (hH : H < Nat.pow 2 63) {x y : Nat}
    (hxW : x < W) (hyH : y < H) :
    put (.int x) (.int y) (.text " ") s =
      .ok () (s.blankWhere fun c r => decide (c = x ∧ r = y)) := by
  obtain ⟨hy, hset⟩ := setCell_nat hs hW hH hxW hyH ⟨.text " ", s.pen⟩
  rw [put_of_setCell hset, set_blank_eq hy]
  rfl

/-- Blanking the cells of a row from column `x0` up to `x1` is a blanking of those cells. -/
theorem blankRun_blank (hW : W < Nat.pow 2 63) (hH : H < Nat.pow 2 63) {y : Int} (hy0 : 0 ≤ y)
    (hyH : y < H) {x1 : Int} (hx1 : x1 ≤ W) (x0 : Int) (hx0 : 0 ≤ x0) (s : Screen)
    (hs : s.Shaped W H) :
    blankRun (.int y) x0 x1 s =
      .ok () (s.blankWhere fun c r => decide ((r : Int) = y ∧ x0 ≤ c ∧ (c : Int) < x1)) := by
  induction x0 using blankRun.induct x1 generalizing s with
  | case1 x0 hlt ih =>
    -- the first cell, then the rest of the run from the next column
    have hput := put_blank hs hW hH (x := x0.toNat) (y := y.toNat) (by omega) (by omega)
    rw [Int.toNat_of_nonneg hx0, Int.toNat_of_nonneg hy0] at hput
    rw [blankRun, dif_pos hlt, bind_ok_of hput, ih (by omega) _ (hs.blankWhere _),
      blankWhere_blankWhere]
    congr 2
    funext c r
    apply Bool.eq_iff_iff.mpr
    simp only [Bool.or_eq_true, decide_eq_true_eq]
    omega
  | case2 x0 hlt =>
    rw [blankRun, dif_neg hlt]
    have hnone : (fun (c r : Nat) => decide ((r : Int) = y ∧ x0 ≤ c ∧ (c : Int) < x1)) =
        fun _ _ => false := by
      funext c r
      simp only [decide_eq_false_iff_not]
      omega
    rw [hnone, blankWhere_false]
    rfl

theorem blankRows_blank (hW : W < Nat.pow 2 63) (hH : H < Nat.pow 2 63) {y1 : Int} (hy1 : y1 ≤ H)
    (y0 : Int) (hy0 : 0 ≤ y0) (s : Screen) (hs : s.Shaped W H) :
    blankRows y0 y1 s = .ok () (s.blankWhere fun _ r => decide (y0 ≤ r ∧ (r : Int) < y1)) := by
  induction y0, s using blankRows.induct y1 with
  | case1 y0 s hlt e he =>
    rw [hs.width] at he
    cases he
  | case2 y0 s hlt w hw hw0 =>
    -- a grid with no columns has no cells to blank
    have hwW : w = W := by
      rw [hs.width] at hw
      cases hw
      rfl
    simp only [blankRows, dif_pos hlt, hw, if_pos hw0]
    rw [blankWhere_congr hs (B := fun _ _ => false) (fun c r hc _ => by omega), blankWhere_false]
  | case3 y0 s hlt w hw hw0 ih =>
    have hwW : w = W := by
      rw [hs.width] at hw
      cases hw
      rfl
    subst hwW
    -- the first row, then the rows after it
    simp only [blankRows, dif_pos hlt, hw, if_neg hw0]
    rw [bind_ok_of (blankRun_blank hW hH hy0 (by omega) (Int.le_refl _) 0 (Int.le_refl 0) s hs),
      ih _ (by omega) (hs.blankWhere _), blankWhere_blankWhere]
    refine congrArg _ (blankWhere_congr hs fun c r hc _ => ?_)
    apply Bool.eq_iff_iff.mpr
    simp only [Bool.or_eq_true, decide_eq_true_eq]
    omega
  | case4 y0 s hlt =>
    rw [blankRows, dif_neg hlt]
    have hnone : (fun (_ r : Nat) => decide (y0 ≤ r ∧ (r : Int) < y1)) = fun _ _ => false := by
      funext c r
      simp only [decide_eq_false_iff_not]
      omega
    rw [hnone, blankWhere_false]

theorem erase_blank_bounds (hs : s.Shaped W H) (hW : W < Nat.pow 2 63) (hH : H < Nat.pow 2 63)
    {y : Int} (hy : s.y = .int y) (hy0 : 0 ≤ y) (hyH : y < H) (f param : Value)
    {x0 x1 y0 y1 : Int} (hb : s.eraseBounds param = .ok (.int x0, .int x1, .int y0, .int y1))
    (hx0 : 0 ≤ x0)
    (hx1 : x1 ≤ W) (hy0' : 0 ≤ y0) (hy1 : y1 ≤ H) :
    erase f param s = .ok () (s.blankWhere fun c r =>
      decide ((r : Int) = y ∧ x0 ≤ c ∧ (c : Int) < x1) ||
        (!f.isText "K" && decide (y0 ≤ r ∧ (r : Int) < y1))) := by
  rw [erase_eq hy f param hb, bind_ok_of (blankRun_blank hW hH hy0 hyH hx1 x0 hx0 s hs)]
  cases hK : f.isText "K"
  · -- the screen: the rows follow the run
    rw [if_neg (by simp), blankRows_blank hW hH hy1 y0 hy0' _ (hs.blankWhere _),
      blankWhere_blankWhere]
    simp only [Bool.not_false, Bool.true_and]
  · rw [if_pos rfl]
    simp only [Bool.not_true, Bool.false_and, Bool.or_false]
    rfl

/-! ### The regions of an erase -/

/-- The cells an erase with parameter `p` blanks, the cursor at `(x, y)`: on its row from the
cursor on, before it, or all; for the screen also the rows below, those more than one above, or all. -/
def eraseRegion (line : Bool) (p : Text) (x y : Int) (c r : Nat) : Bool :=
  if p = Text.ofString "0" ∨ p = Text.ofString "" then
    decide ((r : Int) = y ∧ x ≤ c) || (!line && decide (y < r))
  else if p = Text.ofString "1" then
    decide ((r : Int) = y ∧ (c : Int) < x) || (!line && decide ((r : Int) + 1 < y))
  else decide ((r : Int) = y) || !line

/-- An erase returns and blanks exactly the cells of its region in the pen colour. -/
theorem erase_blanks_region (hs : s.Shaped W H) (hW : W < Nat.pow 2 63) (hH : H < Nat.pow 2 63)
    {x y : Int} (hx : s.x = .int x) (hy : s.y = .int y) (hx0 : 0 ≤ x) (hxW : x < W)
    (hy0 : 0 ≤ y) (hyH : y < H) (f : Value) (p : Text) :
    erase f (.str p) s = .ok () (s.blankWhere (eraseRegion (f.isText "K") p x y)) := by
  unfold eraseRegion
  by_cases h0 : p = Text.ofString "0" ∨ p = Text.ofString ""
  · -- from the cursor: the rest of its row, then the rows below
    have hb : s.eraseBounds (.str p) = .ok (.int x, .int W, .int (y + 1), .int H) := by
      rw [eraseBounds, if_pos (by simpa [Value.isText_str] using h0), hy, Value.add_int,
        Except.ok_bind, hx, hs.width, hs.height]
      rfl
    rw [erase_blank_bounds hs hW hH hy hy0 hyH f _ hb hx0 (Int.le_refl _) (by omega)
      (Int.le_refl _)]
    refine congrArg _ (blankWhere_congr hs fun c r hc hr => ?_)
    rw [if_pos h0]
    cases f.isText "K" <;> (apply Bool.eq_iff_iff.mpr; simp <;> omega)
  · by_cases h1 : p = Text.ofString "1"
    · -- before the cursor: the start of its row, then the rows more than one above
      have hb : s.eraseBounds (.str p) = .ok (.int 0, .int x, .int 0, .int (y - 1)) := by
        rw [eraseBounds, if_neg (by simpa [Value.isText_str] using h0),
          if_pos (by simpa [Value.isText_str] using h1), hy, Value.sub_int, Except.ok_bind, hx]
        rfl
      rw [erase_blank_bounds hs hW hH hy hy0 hyH f _ hb (Int.le_refl 0) (Int.le_of_lt hxW)
        (Int.le_refl 0) (by omega)]
      refine congrArg _ (blankWhere_congr hs fun c r hc hr => ?_)
      rw [if_neg h0, if_pos h1]
      cases f.isText "K" <;> (apply Bool.eq_iff_iff.mpr; simp <;> omega)
    · -- anything else: the whole row, then the whole screen
      have hb : s.eraseBounds (.str p) = .ok (.int 0, .int W, .int 0, .int H) := by
        rw [eraseBounds, if_neg (by simpa [Value.isText_str] using h0),
          if_neg (by simpa [Value.isText_str] using h1), hs.width, hs.height]
        rfl
      rw [erase_blank_bounds hs hW hH hy hy0 hyH f _ hb (Int.le_refl 0) (Int.le_refl _)
        (Int.le_refl 0) (Int.le_refl _)]
      refine congrArg _ (blankWhere_congr hs fun c r hc hr => ?_)
      rw [if_neg h0, if_neg h1]
      cases f.isText "K" <;> (apply Bool.eq_iff_iff.mpr; simp <;> omega)

theorem erase_halves (hs : s.Shaped W H) (hW : W < Nat.pow 2 63) (hH : H < Nat.pow 2 63)
    {x y : Int} (hx : s.x = .int x) (hy : s.y = .int y) (hx0 : 0 ≤ x) (hxW : x < W)
    (hy0 : 0 ≤ y) (hyH : y < H) (f : Value) (first second : String)
    (hfs : first = "0" ∧ second = "1" ∨ first = "1" ∧ second = "0") :
    (erase f (.text first) >>= fun _ => erase f (.text second)) s =
      .ok () (s.blankWhere fun _ r =>
        decide ((r : Int) = y) || (!f.isText "K" && decide ((r : Int) + 1 ≠ y))) := by
  have hs₁ := hs.blankWhere (eraseRegion (f.isText "K") (Text.ofString first) x y)
  rw [Value.text, bind_ok_of (erase_blanks_region hs hW hH hx hy hx0 hxW hy0 hyH f _), Value.text,
    erase_blanks_region hs₁ hW hH hx hy hx0 hxW hy0 hyH f _, blankWhere_blankWhere]
  refine congrArg _ (blankWhere_congr hs fun c r _ _ => ?_)
  -- the two regions together cover the cursor's row, and all rows but the one above it
  rcases hfs with ⟨rfl, rfl⟩ | ⟨rfl, rfl⟩
  all_goals
    simp only [eraseRegion, show Text.ofString "0" ≠ Text.ofString "1" by decide,
      show Text.ofString "1" ≠ Text.ofString "0" by decide,
      show Text.ofString "1" ≠ Text.ofString "" by decide, or_false, if_true, if_false]
    cases f.isText "K" <;> (apply Bool.eq_iff_iff.mpr; simp <;> omega)

end

end Screen

/-- Each erase blanks its region and nothing else; erasing from the cursor and before it blanks
the whole line, but of the screen every row except the one just above the cursor. -/
theorem erase_regions_miss_row_above {W H : Nat} {s : Screen} (hs : s.Shaped W H)
    (hW : W < Nat.pow 2 63) (hH : H < Nat.pow 2 63) {x y : Int} (hx : s.x = .int x)
    (hy : s.y = .int y) (hx0 : 0 ≤ x) (hxW : x < W) (hy0 : 0 ≤ y) (hyH : y < H) (f : Value) :
    (∀ p : Text, Screen.erase f (.str p) s =
      .ok () (s.blankWhere (Screen.eraseRegion (f.isText "K") p x y))) ∧
    (Screen.erase f (.text "0") >>= fun _ => Screen.erase f (.text "1")) s =
      .ok () (s.blankWhere fun _ r =>
        decide ((r : Int) = y) || (!f.isText "K" && decide ((r : Int) + 1 ≠ y))) ∧
    (Screen.erase f (.text "1") >>= fun _ => Screen.erase f (.text "0")) s =
      .ok () (s.blankWhere fun _ r =>
        decide ((r : Int) = y) || (!f.isText "K" && decide ((r : Int) + 1 ≠ y))) :=
  ⟨Screen.erase_blanks_region hs hW hH hx hy hx0 hxW hy0 hyH f,
    Screen.erase_halves hs hW hH hx hy hx0 hxW hy0 hyH f "0" "1" (.inl ⟨rfl, rfl⟩),
    Screen.erase_halves hs hW hH hx hy hx0 hxW hy0 hyH f "1" "0" (.inr ⟨rfl, rfl⟩)⟩

/-- The erase regions on a blank screen ten cells wide and three rows high. -/
theorem erase_regions_miss_row_above_ten_by_three :
    let s : Screen := { Screen.blank (.int 10) (.int 3) 10 with x := .int 4, y := .int 2 }
    s.Shaped 10 3 ∧ 10 < Nat.pow 2 63 ∧ 3 < Nat.pow 2 63 ∧ s.x = .int 4 ∧ s.y = .int 2 ∧
    (0 : Int) ≤ 4 ∧ (4 : Int) < (10 : Nat) ∧ (0 : Int) ≤ 2 ∧ (2 : Int) < (3 : Nat) ∧
    ((∀ p : Text, Screen.erase (.text "J") (.str p) s =
      .ok () (s.blankWhere (Screen.eraseRegion ((Value.text "J").isText "K") p 4 2))) ∧
    (Screen.erase (.text "J") (.text "0") >>= fun _ => Screen.erase (.text "J") (.text "1")) s =
      .ok () (s.blankWhere fun _ r =>
        decide ((r : Int) = 2) ||
          (!(Value.text "J").isText "K" && decide ((r : Int) + 1 ≠ 2))) ∧
    (Screen.erase (.text "J") (.text "1") >>= fun _ => Screen.erase (.text "J") (.text "0")) s =
      .ok () (s.blankWhere fun _ r =>
        decide ((r : Int) = 2) ||
          (!(Value.text "J").isText "K" && decide ((r : Int) + 1 ≠ 2)))) :=
  have hs : (Screen.blank (.int 10) (.int 3) 10).Shaped 10 3 := Screen.shaped_blank 10 3
  have hs' : ({ Screen.blank (.int 10) (.int 3) 10 with x := .int 4, y := .int 2 } : Screen).Shaped
      10 3 := ⟨hs.width, hs.height, hs.rows, hs.cols⟩
  ⟨hs', by decide, by decide, rfl, rfl, by decide, by decide, by decide, by decide,
    erase_regions_miss_row_above hs' (by decide) (by decide) rfl rfl (by decide) (by decide)
      (by decide) (by decide) (.text "J")⟩

end TermSnap
