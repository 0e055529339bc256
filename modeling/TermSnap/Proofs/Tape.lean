import TermSnap.Proofs.Erasing
/-!
# Printing along a tape

A screen of `H` rows of `W` cells is a window on a tape: its rows end to end, then blank rows in the
pen colour. Printing a text from position `p` writes its code points at `p`, `p + 1`, ... and
leaves the window at `p + n`, glyphs scrolled out of sight included (`printText_follows_tape`).
-/

namespace TermSnap

theorem succ_div_mod {W : Nat} (hW : 0 < W) (q : Nat) :
    (q % W + 1 < W ∧ (q + 1) / W = q / W ∧ (q + 1) % W = q % W + 1) ∨
      (q % W + 1 = W ∧ (q + 1) / W = q / W + 1 ∧ (q + 1) % W = 0) := by
  have hq := Nat.div_add_mod q W
  have hm := Nat.mod_lt q hW
  by_cases hc : q % W + 1 < W
  · have he : q + 1 = (q % W + 1) + W * (q / W) := by omega
    refine .inl ⟨hc, ?_, ?_⟩
    · rw [he, Nat.add_mul_div_left _ _ hW, Nat.div_eq_of_lt hc, Nat.zero_add]
    · rw [he, Nat.add_mul_mod_self_left, Nat.mod_eq_of_lt hc]
  · have he : q + 1 = W * (q / W + 1) := by rw [Nat.mul_add]; omega
    refine .inr ⟨by omega, ?_, ?_⟩
    · rw [he, Nat.mul_div_cancel_left _ hW]
    · rw [he, Nat.mul_mod_right]

theorem row_col_of_lt {W : Nat} {c : Nat} (hc : c < W) (r : Nat) :
    (r * W + c) / W = r ∧ (r * W + c) % W = c := by
  have hW : 0 < W := by omega
  constructor
  · rw [Nat.add_comm, Nat.add_mul_div_right _ _ hW, Nat.div_eq_of_lt hc, Nat.zero_add]
  · rw [Nat.add_comm, Nat.add_mul_mod_self_right, Nat.mod_eq_of_lt hc]

namespace Screen

/-- The cell at position `i` of a screen read as a tape: its rows, then blank rows. -/
def tape (s : Screen) (W : Nat) (i : Nat) : Cell :=
  ((s.rows[i / W]?).bind (·[i % W]?)).getD ⟨.text " ", s.pen⟩

/-- A tape with the glyphs `gs` written in colour `c` at positions `p`, `p + 1`, .... -/
def writeTape (T : Nat → Cell) (c : Value) (p : Nat) (gs : List Value) (i : Nat) : Cell :=
  if p ≤ i then ((gs[i - p]?).map fun g => ⟨g, c⟩).getD (T i) else T i

/-- `H` rows of `W` cells of a tape, from tape row `k` on. -/
def tapeRows (T : Nat → Cell) (W H k : Nat) : List (List Cell) :=
  (List.range H).map fun r => (List.range W).map fun c => T ((k + r) * W + c)

/-- The screen on the tape `T` with the cursor at position `q`: the `H` tape rows that end with
the cursor's row, or the first `H` while the cursor is in them. -/
def atTape (s : Screen) (W H : Nat) (T : Nat → Cell) (q : Nat) : Screen :=
  { s with rows := tapeRows T W H (q / W + 1 - H), x := .int ((q % W : Nat) : Int),
           y := .int ((q / W - (q / W + 1 - H) : Nat) : Int) }

section AtTape

variable (s : Screen) (W H : Nat) (T : Nat → Cell) (q : Nat)

@[simp] theorem atTape_rows : (s.atTape W H T q).rows = tapeRows T W H (q / W + 1 - H) := rfl
@[simp] theorem atTape_x : (s.atTape W H T q).x = .int ((q % W : Nat) : Int) := rfl
@[simp] theorem atTape_y :
    (s.atTape W H T q).y = .int ((q / W - (q / W + 1 - H) : Nat) : Int) := rfl
@[simp] theorem atTape_width : (s.atTape W H T q).width = s.width := rfl
@[simp] theorem atTape_height : (s.atTape W H T q).height = s.height := rfl
@[simp] theorem atTape_pen : (s.atTape W H T q).pen = s.pen := rfl

end AtTape

/-- Whether a tape holds blanks in colour `c` from position `n` on. -/
def BlankFrom (T : Nat → Cell) (c : Value) (n : Nat) : Prop := ∀ i, n ≤ i → T i = ⟨.text " ", c⟩

variable {W H : Nat}

theorem length_tapeRows (T : Nat → Cell) (k : Nat) : (tapeRows T W H k).length = H := by
  simp [tapeRows]

theorem getElem_tapeRows (T : Nat → Cell) (k : Nat) {r : Nat} (hr : r < (tapeRows T W H k).length) :
    (tapeRows T W H k)[r] = (List.range W).map fun c => T ((k + r) * W + c) := by
  simp [tapeRows]

theorem Shaped.atTape {s : Screen} (hW : s.width = .int W) (hH : s.height = .int H)
    (T : Nat → Cell) (q : Nat) : (s.atTape W H T q).Shaped W H where
  width := hW
  height := hH
  rows := length_tapeRows T _
  cols := by
    intro row hrow
    obtain ⟨r, -, rfl⟩ := List.mem_map.mp hrow
    simp

theorem tapeRows_tape {s : Screen} (hs : s.Shaped W H) : tapeRows (s.tape W) W H 0 = s.rows := by
  apply List.ext_getElem (by rw [length_tapeRows, hs.rows])
  intro r h1 h2
  have hrow := hs.cols s.rows[r] (List.getElem_mem h2)
  rw [getElem_tapeRows]
  apply List.ext_getElem (by simp [hrow])
  intro c h3 h4
  have hc : c < W := by simpa using h3
  obtain ⟨hd, -⟩ := row_col_of_lt hc r
  simp [tape, hd, Nat.mod_eq_of_lt hc, h2, List.getElem?_eq_getElem h4]

/-- A screen of `H` rows of `W` cells is the window on its own tape at its cursor. -/
theorem atTape_self {s : Screen} (hs : s.Shaped W H) {x y : Nat} (hx : s.x = .int x)
    (hy : s.y = .int y) (hxW : x < W) (hyH : y < H) : s.atTape W H (s.tape W) (y * W + x) = s := by
  obtain ⟨hdiv, hmod⟩ := row_col_of_lt hxW y
  have hrows := tapeRows_tape hs
  cases s
  simp only at hx hy
  subst hx hy
  simp only [atTape, hdiv, hmod, show y + 1 - H = 0 by omega, hrows, Nat.sub_zero]

theorem blankFrom_tape {s : Screen} (hs : s.Shaped W H) (hW : 0 < W) :
    BlankFrom (s.tape W) s.pen (H * W) := by
  intro i hi
  have hr : s.rows.length ≤ i / W := by
    rw [hs.rows]
    exact (Nat.le_div_iff_mul_le hW).mpr hi
  simp [tape, List.getElem?_eq_none hr]

theorem writeTape_single (T : Nat → Cell) (c : Value) (q : Nat) (g : Value) (i : Nat) :
    writeTape T c q [g] i = if i = q then ⟨g, c⟩ else T i := by
  unfold writeTape
  by_cases hq : q ≤ i
  · by_cases hi : i = q
    · subst hi; simp
    · have hpos : 0 < i - q := by omega
      rw [if_pos hq, if_neg hi, List.getElem?_eq_none (by simp; omega)]
      rfl
  · rw [if_neg hq, if_neg (by omega)]

theorem writeTape_cons (T : Nat → Cell) (c : Value) (q : Nat) (g : Value) (gs : List Value) :
    writeTape T c q (g :: gs) = writeTape (writeTape T c q [g]) c (q + 1) gs := by
  funext i
  by_cases hi : i = q
  · subst hi
    simp only [writeTape, Nat.le_refl, if_true, Nat.sub_self, List.getElem?_cons_zero,
      Option.map_some, Option.getD_some, Nat.not_succ_le_self, if_false]
  · have hin : writeTape T c q [g] i = T i := by rw [writeTape_single, if_neg hi]
    rw [writeTape, writeTape]
    by_cases hq : q + 1 ≤ i
    · rw [if_pos (Nat.le_of_succ_le hq), if_pos hq, hin, show i - q = (i - (q + 1)) + 1 by omega,
        List.getElem?_cons_succ]
    · rw [if_neg (by omega), if_neg hq, hin]

theorem writeTape_nil (T : Nat → Cell) (c : Value) (q : Nat) : writeTape T c q [] = T := by
  funext i
  simp [writeTape]

theorem BlankFrom.writeTape_single {T : Nat → Cell} {c : Value} {n : Nat} (hT : BlankFrom T c n)
    {q : Nat} (hq : q < n) (g : Value) : BlankFrom (writeTape T c q [g]) c n := by
  intro i hi
  rw [Screen.writeTape_single, if_neg (by omega)]
  exact hT i hi

theorem BlankFrom.mono {T : Nat → Cell} {c : Value} {n m : Nat} (hT : BlankFrom T c n)
    (h : n ≤ m) : BlankFrom T c m :=
  fun i hi => hT i (Nat.le_trans h hi)

theorem tapeRows_set (T : Nat → Cell) (c : Value) (k : Nat) {a b : Nat} (ha : a < W) (g : Value)
    (hb : b < (tapeRows T W H k).length) :
    (tapeRows T W H k).set b ((tapeRows T W H k)[b].set a ⟨g, c⟩) =
      tapeRows (writeTape T c ((k + b) * W + a) [g]) W H k := by
  apply List.ext_getElem (by simp [length_tapeRows])
  intro r h1 h2
  simp only [List.getElem_set, getElem_tapeRows]
  by_cases hr : b = r
  · subst hr
    rw [if_pos rfl]
    apply List.ext_getElem (by simp)
    intro x h3 h4
    have hx : x < W := by simpa using h4
    rw [List.getElem_set]
    by_cases hxa : a = x
    · subst hxa
      simp [writeTape_single]
    · have hxa' : x ≠ a := Ne.symm hxa
      simp [writeTape_single, hxa, hxa']
  · rw [if_neg hr]
    apply List.ext_getElem (by simp)
    intro x h3 h4
    have hx : x < W := by simpa using h4
    -- positions on different rows of the window are different positions of the tape
    have hne : (k + r) * W + x ≠ (k + b) * W + a := by
      intro he
      have h1 := (row_col_of_lt hx (k + r)).1
      rw [he, (row_col_of_lt ha (k + b)).1] at h1
      omega
    simp [writeTape_single, hne]

/-- Scrolling the window up `j` rows moves it `j` rows down the tape. -/
theorem scrolledRows_tapeRows {s : Screen} {T : Nat → Cell} {k j : Nat} (hcols : s.columns = W)
    (hrows : s.rows = tapeRows T W H k) (hT : BlankFrom T s.pen ((k + H) * W)) :
    s.scrolledRows j = tapeRows T W H (k + j) := by
  apply List.ext_getElem (by simp [length_scrolledRows, hrows, length_tapeRows])
  intro r h1 h2
  have hr : r < H := by simpa [length_tapeRows] using h2
  rw [getElem_tapeRows]
  simp only [scrolledRows, hrows]
  by_cases hlow : r < H - j
  · rw [List.getElem_append_left (by simp [length_tapeRows]; omega), List.getElem_drop,
      getElem_tapeRows, show k + (j + r) = k + j + r by omega]
  · rw [List.getElem_append_right (by simp [length_tapeRows]; omega), List.getElem_replicate,
      blankRow, hcols]
    apply List.ext_getElem (by simp)
    intro x h3 h4
    have hx : x < W := by simpa using h4
    -- the rows brought in are below the window, where the tape is blank
    have hbelow : (k + H) * W ≤ (k + j + r) * W + x :=
      Nat.le_trans (Nat.mul_le_mul_right W (by omega)) (Nat.le_add_right _ _)
    simp [hT _ hbelow]

theorem lt_windowEnd (hW0 : 0 < W) (q : Nat) : q < (q / W + 1 - H + H) * W := by
  have h1 : q < (q / W + 1) * W := by
    have h2 := Nat.div_add_mod' q W
    have h3 := Nat.mod_lt q hW0
    rw [Nat.succ_mul]
    generalize q / W * W = m at h2 ⊢
    omega
  exact Nat.lt_of_lt_of_le h1 (Nat.mul_le_mul_right W (by generalize q / W = R; omega))

theorem windowEnd_le_succ (q : Nat) : (q / W + 1 - H + H) * W ≤ ((q + 1) / W + 1 - H + H) * W :=
  Nat.mul_le_mul_right W (Nat.add_le_add_right (Nat.sub_le_sub_right (Nat.add_le_add_right
    (Nat.div_le_div_right (Nat.le_succ q)) 1) H) H)

/-- The step of printing one glyph, read on the tape. -/
theorem step_on_tape (hW0 : 0 < W) (hH0 : 0 < H) (q : Nat) :
    columnAfter W (((q % W : Nat) : Int) + 1) = (((q + 1) % W : Nat) : Int) ∧
      ((rowAimed W (((q % W : Nat) : Int) + 1) (((q / W - (q / W + 1 - H) : Nat) : Int) + 0) -
          H + 1).toNat = ((q + 1) / W + 1 - H) - (q / W + 1 - H)) ∧
      rowAimed W (((q % W : Nat) : Int) + 1) (((q / W - (q / W + 1 - H) : Nat) : Int) + 0) -
          ((((q + 1) / W + 1 - H) - (q / W + 1 - H) : Nat) : Int) =
        (((q + 1) / W - ((q + 1) / W + 1 - H) : Nat) : Int) ∧
      q / W + 1 - H ≤ (q + 1) / W + 1 - H := by
  rcases succ_div_mod hW0 q with ⟨hlt, hdiv, hmod⟩ | ⟨heq, hdiv, hmod⟩
  · have hc : columnAfter W (((q % W : Nat) : Int) + 1) = ((q % W : Nat) : Int) + 1 :=
      columnAfter_of_lt (by omega) (by omega)
    have hr := rowAimed_of_lt (W := W) (x := ((q % W : Nat) : Int) + 1)
      (((q / W - (q / W + 1 - H) : Nat) : Int) + 0) (by omega)
    rw [hc, hr, hdiv, hmod]
    generalize q / W = R at *
    generalize q % W = a at *
    omega
  · have hc : columnAfter W (((q % W : Nat) : Int) + 1) = 0 := by
      unfold columnAfter; rw [if_pos (by omega)]
    have hr : rowAimed W (((q % W : Nat) : Int) + 1) (((q / W - (q / W + 1 - H) : Nat) : Int) + 0) =
        ((q / W - (q / W + 1 - H) : Nat) : Int) + 1 := by
      unfold rowAimed; rw [if_pos (by omega)]; omega
    rw [hc, hr, hdiv, hmod]
    generalize q / W = R at *
    generalize q % W = a at *
    omega

theorem put_move_atTape {s : Screen} (hW : s.width = .int W) (hH : s.height = .int H)
    (hW0 : 0 < W) (hH0 : 0 < H) (hW63 : W < Nat.pow 2 63) (hH63 : H < Nat.pow 2 63)
    {T : Nat → Cell} {q : Nat} (hT : BlankFrom T s.pen ((q / W + 1 - H + H) * W)) (g : Value) :
    (put (s.atTape W H T q).x (s.atTape W H T q).y g >>= fun _ => move (.int 1) (.int 0))
        (s.atTape W H T q) = .ok () (s.atTape W H (writeTape T s.pen q [g]) (q + 1)) := by
  -- the cursor is at column `q % W` of window row `b`, the window starting at tape row `k`
  have hq : (q / W + 1 - H + (q / W - (q / W + 1 - H))) * W + q % W = q := by
    rw [show q / W + 1 - H + (q / W - (q / W + 1 - H)) = q / W by generalize q / W = R; omega]
    exact Nat.div_add_mod' q W
  have hb : q / W - (q / W + 1 - H) < H := by generalize q / W = R; omega
  have hshape := Shaped.atTape hW hH T q
  obtain ⟨hb', hset⟩ := setCell_nat hshape hW63 hH63 (Nat.mod_lt q hW0) hb ⟨g, s.pen⟩
  have hput := put_of_setCell hset
  simp only [atTape_rows, atTape_width, atTape_height, atTape_x, atTape_y, atTape_pen] at hput hb'
  rw [tapeRows_set T s.pen _ (Nat.mod_lt q hW0) g hb', hq] at hput
  obtain ⟨hX, hj, hY, hk0⟩ := step_on_tape (H := H) hW0 hH0 q
  -- the glyph is written above the blank part of the tape, which stays blank
  have hT' := hT.writeTape_single (lt_windowEnd hW0 q) g
  generalize hS1 :
    ({ width := s.width, height := s.height,
       rows := tapeRows (writeTape T s.pen q [g]) W H (q / W + 1 - H),
       x := .int ((q % W : Nat) : Int), y := .int ((q / W - (q / W + 1 - H) : Nat) : Int),
       pen := s.pen } : Screen) = S1 at hput
  have hmove := move_int S1 (by rw [← hS1]) (by rw [← hS1]) (by rw [← hS1]; exact hW)
    (by rw [← hS1]; exact hH) (by rw [← hS1, length_tapeRows]; exact hH0) 1 0
  have hrows : S1.scrolledRows ((q + 1) / W + 1 - H - (q / W + 1 - H)) =
      tapeRows (writeTape T s.pen q [g]) W H ((q + 1) / W + 1 - H) := by
    have hcols : S1.columns = W := by rw [← hS1]; simp [columns, hW, Value.asInt?]
    have hrows1 : S1.rows = tapeRows (writeTape T s.pen q [g]) W H (q / W + 1 - H) := by
      rw [← hS1]
    have hpen : S1.pen = s.pen := by rw [← hS1]
    have hk' : q / W + 1 - H + ((q + 1) / W + 1 - H - (q / W + 1 - H)) = (q + 1) / W + 1 - H :=
      Nat.add_sub_of_le hk0
    rw [scrolledRows_tapeRows hcols hrows1 (hpen ▸ hT'), hk']
  rw [hX, hj, hY, hrows] at hmove
  rw [atTape_x, atTape_y, bind_ok_of hput, hmove]
  subst hS1
  rfl

end Screen

namespace Terminal

open Screen

variable {W H : Nat} {s : Screen}

theorem printGlyph_of_step {t : Terminal} {g : Value} {S : Screen}
    (h : (put t.screen.x t.screen.y g >>= fun _ => Screen.move (.int 1) (.int 0)) t.screen =
      .ok () S) : printGlyph g t = .ok () { t with screen := S } :=
  onScreen_ok h

/-- Printing glyphs from tape position `q` writes them at `q`, `q + 1`, ... and leaves the window
at `q` plus their number. -/
theorem printGlyphs_atTape (hW : s.width = .int W) (hH : s.height = .int H) (hW0 : 0 < W)
    (hH0 : 0 < H) (hW63 : W < Nat.pow 2 63) (hH63 : H < Nat.pow 2 63) (t : Terminal)
    (gs : List Value) :
    ∀ (T : Nat → Cell) (q : Nat), BlankFrom T s.pen ((q / W + 1 - H + H) * W) →
      printGlyphs gs { t with screen := s.atTape W H T q } =
        .ok () { t with screen := s.atTape W H (writeTape T s.pen q gs) (q + gs.length) } := by
  induction gs with
  | nil =>
    intro T q _
    rw [writeTape_nil]
    rfl
  | cons g gs ih =>
    intro T q hT
    have hstep : printGlyph g { t with screen := s.atTape W H T q } =
        .ok () { t with screen := s.atTape W H (writeTape T s.pen q [g]) (q + 1) } :=
      printGlyph_of_step (put_move_atTape hW hH hW0 hH0 hW63 hH63 hT g)
    -- the window only moves down the tape, so the tape stays blank below it
    have hT' := (hT.writeTape_single (lt_windowEnd hW0 q) g).mono (windowEnd_le_succ q)
    rw [printGlyphs, bind_ok_of hstep, ih _ _ hT', ← writeTape_cons, List.length_cons,
      Nat.add_assoc, Nat.add_comm 1]

end Terminal

/-- Printing a text of `n` code points from position `p = y * W + x` writes them at `p` to
`p + n - 1` and leaves the window at `p + n`; the pen and all else stay. -/
theorem printText_follows_tape {W H : Nat} (hW0 : 0 < W) (hH0 : 0 < H) (hW63 : W < Nat.pow 2 63)
    (hH63 : H < Nat.pow 2 63) {t : Terminal} (hs : t.screen.Shaped W H) {x y : Nat}
    (hx : t.screen.x = .int x) (hy : t.screen.y = .int y) (hxW : x < W) (hyH : y < H)
    (text : Text) :
    Terminal.printElements (.str text) t =
      .ok () { t with
        screen := t.screen.atTape W H
          (Screen.writeTape (t.screen.tape W) t.screen.pen (y * W + x) (text.map fun p => .str [p]))
          (y * W + x + text.length) } := by
  have hself := Screen.atTape_self hs hx hy hxW hyH
  -- the tape is blank from the end of the screen, which is the end of the window at `p`
  have hT : Screen.BlankFrom (t.screen.tape W) t.screen.pen
      (((y * W + x) / W + 1 - H + H) * W) := by
    rw [(row_col_of_lt hxW y).1, show y + 1 - H + H = H by omega]
    exact Screen.blankFrom_tape hs hW0
  have hrun := Terminal.printGlyphs_atTape hs.width hs.height hW0 hH0 hW63 hH63 t
    (text.map fun p => .str [p]) _ _ hT
  rw [hself, List.length_map] at hrun
  exact hrun

/-- Four code points from column 1 of the last row of a 3 by 2 screen wrap and scroll. -/
theorem printText_follows_tape_wrapping :
    let t := Terminal.ofScreen { Screen.blank (.int 3) (.int 2) 3 with x := .int 1, y := .int 1 }
    0 < 3 ∧ 0 < 2 ∧ 3 < Nat.pow 2 63 ∧ 2 < Nat.pow 2 63 ∧ t.screen.Shaped 3 2 ∧
      t.screen.x = .int (1 : Nat) ∧ t.screen.y = .int (1 : Nat) ∧ 1 < 3 ∧ 1 < 2 ∧
      Terminal.printElements (.str (Text.ofString "abcd")) t =
        .ok () { t with
          screen := t.screen.atTape 3 2
            (Screen.writeTape (t.screen.tape 3) t.screen.pen (1 * 3 + 1)
              ((Text.ofString "abcd").map fun p => .str [p]))
            (1 * 3 + 1 + (Text.ofString "abcd").length) } :=
  have hs : (Screen.blank (.int 3) (.int 2) 3).Shaped 3 2 := Screen.shaped_blank 3 2
  have hs' : ({ Screen.blank (.int 3) (.int 2) 3 with x := .int 1, y := .int 1 } : Screen).Shaped
      3 2 := ⟨hs.width, hs.height, hs.rows, hs.cols⟩
  ⟨by decide, by decide, by decide, by decide, hs', rfl, rfl, by decide, by decide,
    printText_follows_tape (by decide) (by decide) (by decide) (by decide) hs' rfl rfl
      (by decide) (by decide) _⟩

end TermSnap
