import TermSnap.Proofs.Splitting
import TermSnap.Proofs.Tape
/-!
# Line ends

On the tape view of a screen (`Screen.atTape`) a carriage return goes back to the start of the
cursor's tape row and a line feed on to the next. The cursor wraps as soon as a glyph lands in the
last column, so a full line followed by CR LF moves two rows (`full_line_moves_two_rows`). An `ESC`
before a line control takes it as one escape (`escape_absorbs_line_control`).
-/

namespace TermSnap

namespace Screen

variable {W H : Nat}

theorem writeTape_outside {T : Nat → Cell} {c : Value} {p : Nat} {gs : List Value} {i : Nat}
    (h : i < p ∨ p + gs.length ≤ i) : writeTape T c p gs i = T i := by
  unfold writeTape
  split
  · rw [List.getElem?_eq_none (by omega)]
    rfl
  · rfl

theorem BlankFrom.writeTape {T : Nat → Cell} {c : Value} {n : Nat} (hT : BlankFrom T c n)
    {p : Nat} {gs : List Value} (h : p + gs.length ≤ n) : BlankFrom (writeTape T c p gs) c n := by
  intro i hi
  rw [writeTape_outside (.inr (by omega))]
  exact hT i hi

/-- Writing a whole tape row of glyphs sets that row of a window that holds it. -/
theorem tapeRows_writeTape_row (T : Nat → Cell) (c : Value) (k b : Nat) (gs : List Value)
    (hgs : gs.length = W) :
    tapeRows (writeTape T c ((k + b) * W) gs) W H k =
      (tapeRows T W H k).set b (gs.map fun g => ⟨g, c⟩) := by
  apply List.ext_getElem (by simp [length_tapeRows])
  intro r h1 h2
  rw [List.getElem_set, getElem_tapeRows]
  by_cases hr : b = r
  · subst hr
    rw [if_pos rfl]
    apply List.ext_getElem (by simp [hgs])
    intro x h3 h4
    have hx : x < gs.length := by simpa [hgs] using h3
    simp [writeTape, List.getElem?_eq_getElem hx]
  · rw [if_neg hr, getElem_tapeRows]
    apply List.ext_getElem (by simp)
    intro x h3 h4
    have hx : x < W := by simpa using h3
    -- a cell of another row of the window lies before or after the row written
    have hout : (k + r) * W + x < (k + b) * W ∨ (k + b) * W + gs.length ≤ (k + r) * W + x := by
      rw [hgs]
      rcases Nat.lt_or_gt_of_ne hr with hlt | hgt
      · right
        have := Nat.mul_le_mul_right W (show k + b + 1 ≤ k + r by omega)
        rw [Nat.succ_mul] at this
        omega
      · left
        have := Nat.mul_le_mul_right W (show k + r + 1 ≤ k + b by omega)
        rw [Nat.succ_mul] at this
        omega
    simp [writeTape_outside hout]

theorem atTape_row_start {s : Screen} (hW0 : 0 < W) {T : Nat → Cell} (hcols : s.columns = W)
    (hrows : s.rows = tapeRows T W H 0) (hT : BlankFrom T s.pen (H * W)) (m : Nat) :
    s.atTape W H T (m * W) =
      { s with rows := s.scrolledRows (m + 1 - H), x := .int 0,
               y := .int ((m - (m + 1 - H) : Nat) : Int) } := by
  have hscroll := scrolledRows_tapeRows (j := m + 1 - H) hcols hrows (by rwa [Nat.zero_add])
  rw [Nat.zero_add] at hscroll
  simp only [atTape, Nat.mul_div_cancel m hW0, Nat.mul_mod_left, hscroll]
  rfl

theorem blankFrom_writeTape_row {s : Screen} (hs : s.Shaped W H) (hW0 : 0 < W) {y : Nat}
    (hyH : y < H) {gs : List Value} (hgs : gs.length = W) :
    BlankFrom (writeTape (s.tape W) s.pen (y * W) gs) s.pen (H * W) := by
  refine (blankFrom_tape hs hW0).writeTape ?_
  rw [hgs, ← Nat.succ_mul]
  exact Nat.mul_le_mul_right W hyH

/-- The window at the start of tape row `m`, after a row of `W` glyphs is written on row `y`: the
screen with row `y` set, scrolled up as far as row `m` is below the bottom row. -/
theorem atTape_writeTape_row {s : Screen} (hs : s.Shaped W H) (hW0 : 0 < W) {y : Nat}
    (hyH : y < H) {gs : List Value} (hgs : gs.length = W) (m : Nat) :
    let written : Screen := { s with rows := s.rows.set y (gs.map fun g => ⟨g, s.pen⟩) }
    s.atTape W H (writeTape (s.tape W) s.pen (y * W) gs) (m * W) =
      { written with
        rows := written.scrolledRows (m + 1 - H), x := .int 0,
        y := .int ((m - (m + 1 - H) : Nat) : Int) } := by
  intro written
  have hrows := tapeRows_writeTape_row (H := H) (s.tape W) s.pen 0 y gs hgs
  rw [Nat.zero_add, tapeRows_tape hs] at hrows
  have hcols : written.columns = W := by simp [written, columns, hs.width, Value.asInt?]
  -- the window does not depend on the rows of the screen it is taken from
  exact atTape_row_start (s := written) hW0 hcols hrows.symm
    (blankFrom_writeTape_row hs hW0 hyH hgs) m

/-- A move to column 0 and `dy` rows down takes the window to the start of tape row `q / W + dy`. -/
theorem move_home_atTape {s : Screen} (hW : s.width = .int W) (hH : s.height = .int H)
    (hW0 : 0 < W) (hH0 : 0 < H) {T : Nat → Cell} {q : Nat}
    (hT : BlankFrom T s.pen ((q / W + 1 - H + H) * W)) (dy : Nat) :
    move (.int (-((q % W : Nat) : Int))) (.int dy) (s.atTape W H T q) =
      .ok () (s.atTape W H T ((q / W + dy) * W)) := by
  have hne : 0 < (s.atTape W H T q).rows.length := by
    rw [atTape_rows, length_tapeRows]
    exact hH0
  rw [move_int _ (atTape_x ..) (atTape_y ..) (by rw [atTape_width, hW]) (by rw [atTape_height, hH])
    hne, Int.add_right_neg, columnAfter_of_lt (Int.le_refl 0) (by omega),
    rowAimed_of_lt _ (by omega)]
  -- the window starts at tape row `q / W + 1 - H` and scrolls as far as the row aimed at is
  -- below the bottom row, which takes it to the window of tape row `q / W + dy`
  have hcols : (s.atTape W H T q).columns = W := by simp [columns, hW, Value.asInt?]
  have hj : ((((q / W - (q / W + 1 - H) : Nat) : Int) + (dy : Int) - (H : Int) + 1).toNat) =
      (q / W + dy + 1 - H) - (q / W + 1 - H) := by
    generalize q / W = R
    omega
  have hk : q / W + 1 - H + ((q / W + dy + 1 - H) - (q / W + 1 - H)) = q / W + dy + 1 - H := by
    generalize q / W = R
    omega
  rw [hj, scrolledRows_tapeRows hcols (atTape_rows ..) hT, hk]
  simp only [atTape, Nat.mul_div_cancel _ hW0, Nat.mul_mod_left]
  congr 3
  generalize q / W = R
  omega

end Screen

namespace Terminal

open Screen

variable {W H : Nat}

theorem home_eq_move {s : Screen} {x : Int} (hx : s.x = .int x) (dy : Int) :
    (do let s ← get; Screen.move (← Screen.lift s.x.neg) (.int dy) : Screen.Step Unit) s =
      move (.int (-x)) (.int dy) s := by
  show (Screen.lift s.x.neg >>= fun d => move d (.int dy)) s = _
  rw [hx, Value.neg_int]
  rfl

theorem carriageReturn_atTape {s : Screen} (hW : s.width = .int W) (hH : s.height = .int H)
    (hW0 : 0 < W) (hH0 : 0 < H) {T : Nat → Cell} {q : Nat}
    (hT : BlankFrom T s.pen ((q / W + 1 - H + H) * W)) (t : Terminal) :
    carriageReturn { t with screen := s.atTape W H T q } =
      .ok () { t with screen := s.atTape W H T (q / W * W) } := by
  have hmove := move_home_atTape hW hH hW0 hH0 hT 0
  rw [Nat.add_zero] at hmove
  exact onScreen_ok ((home_eq_move (atTape_x ..) 0).trans hmove)

theorem lineFeed_atTape {s : Screen} (hW : s.width = .int W) (hH : s.height = .int H)
    (hW0 : 0 < W) (hH0 : 0 < H) {T : Nat → Cell} {q : Nat}
    (hT : BlankFrom T s.pen ((q / W + 1 - H + H) * W)) (t : Terminal) :
    lineFeed { t with screen := s.atTape W H T q } =
      .ok () { t with screen := s.atTape W H T ((q / W + 1) * W) } :=
  onScreen_ok ((home_eq_move (atTape_x ..) 1).trans (move_home_atTape hW hH hW0 hH0 hT 1))

theorem printGlyphs_row (hW0 : 0 < W) (hH0 : 0 < H) (hW63 : W < Nat.pow 2 63)
    (hH63 : H < Nat.pow 2 63) {t : Terminal} (hs : t.screen.Shaped W H) {y : Nat}
    (hx : t.screen.x = .int 0) (hy : t.screen.y = .int y) (hyH : y < H) {gs : List Value}
    (hgs : gs.length = W) :
    printGlyphs gs t =
      .ok () { t with
        screen := t.screen.atTape W H (writeTape (t.screen.tape W) t.screen.pen (y * W) gs)
          ((y + 1) * W) } := by
  -- the window at the cursor ends at the bottom of the screen, where the tape turns blank
  have hdiv := (row_col_of_lt hW0 y).1
  have hT : BlankFrom (t.screen.tape W) t.screen.pen (((y * W + 0) / W + 1 - H + H) * W) :=
    (blankFrom_tape hs hW0).mono (Nat.mul_le_mul_right W (by rw [hdiv]; omega))
  have h := printGlyphs_atTape hs.width hs.height hW0 hH0 hW63 hH63 t gs (t.screen.tape W)
    (y * W + 0) hT
  rw [atTape_self hs (x := 0) hx hy hW0 hyH, Nat.add_zero, hgs, ← Nat.succ_mul] at h
  exact h

theorem write_run {line : Text} (hline : ∀ p ∈ line, Token.isPrintable p = true) :
    write line = printGlyphs (line.map fun p => .str [p]) := by
  have ht := @List.takeWhile_append_of_pos _ _ line [] hline
  have hd := @List.dropWhile_append_of_pos _ _ line [] hline
  rw [List.append_nil, List.takeWhile_nil, List.append_nil] at ht
  rw [List.append_nil, List.dropWhile_nil] at hd
  rw [write, applyAll_scan_run, ht, hd, Token.scan, applyAll, bind_pure_unit]

theorem write_run_crlf {line : Text} (hline : ∀ p ∈ line, Token.isPrintable p = true) :
    write (line ++ [.char '\r', .char '\n']) =
      (printGlyphs (line.map fun p => .str [p]) >>= fun _ =>
        carriageReturn >>= fun _ => lineFeed) := by
  obtain ⟨ht, hd⟩ := Token.takeWhile_run (.char '\r') [.char '\n'] hline (by decide)
  have hscan : Token.scan [.char '\r', .char '\n'] = [.carriageReturn, .lineFeed] := by
    rw [Token.scan,
      Token.first_plain (c := .char '\r') _ (by decide) (by decide) (by decide) (by decide),
      Token.scan,
      Token.first_plain (c := .char '\n') _ (by decide) (by decide) (by decide) (by decide),
      Token.scan]
    rfl
  rw [write, applyAll_scan_run, ht, hd, hscan]
  simp only [applyAll, apply, bind_pure_unit]

/-- A line as wide as the screen, from column 0 of row `y`, leaves the cursor at the start of the
next row; CR LF after it move one row further, scrolling by `y + 3 - H` rows in all. -/
theorem full_line_moves_two_rows (hW0 : 0 < W) (hH0 : 0 < H) (hW63 : W < Nat.pow 2 63)
    (hH63 : H < Nat.pow 2 63) {t : Terminal} (hs : t.screen.Shaped W H) {y : Nat}
    (hx : t.screen.x = .int 0) (hy : t.screen.y = .int y) (hyH : y < H) (line : Text)
    (hlen : line.length = W) (hline : ∀ p ∈ line, Token.isPrintable p = true) :
    let written : Screen :=
      { t.screen with rows := t.screen.rows.set y (line.map fun p => ⟨.str [p], t.screen.pen⟩) }
    write line t =
        .ok () { t with
          screen := { written with
            rows := written.scrolledRows (y + 2 - H), x := .int 0,
            y := .int ((y + 1 - (y + 2 - H) : Nat) : Int) } } ∧
      write (line ++ [.char '\r', .char '\n']) t =
        .ok () { t with
          screen := { written with
            rows := written.scrolledRows (y + 3 - H), x := .int 0,
            y := .int ((y + 2 - (y + 3 - H) : Nat) : Int) } } := by
  intro written
  have hgs : (line.map fun p => Value.str [p]).length = W := by rw [List.length_map, hlen]
  -- printing the line writes it on tape row `y` and takes the window to the next tape row
  have hprint := printGlyphs_row hW0 hH0 hW63 hH63 hs hx hy hyH hgs
  have hstart := atTape_writeTape_row hs hW0 hyH hgs
  rw [List.map_map] at hstart
  constructor
  · rw [write_run hline, hprint]
    exact congrArg (fun s => EStateM.Result.ok () { t with screen := s }) (hstart (y + 1))
  · -- the carriage return stays at the start of tape row `y + 1`, the line feed goes on a row
    have hT := (blankFrom_writeTape_row hs hW0 hyH hgs).mono
      (Nat.mul_le_mul_right W (show H ≤ (y + 1) * W / W + 1 - H + H by omega))
    have hrow : (y + 1) * W / W = y + 1 := Nat.mul_div_cancel _ hW0
    have hcr := carriageReturn_atTape hs.width hs.height hW0 hH0 hT t
    have hlf := lineFeed_atTape hs.width hs.height hW0 hH0 hT t
    rw [hrow] at hcr hlf
    rw [write_run_crlf hline, bind_ok_of hprint, bind_ok_of hcr, hlf]
    exact congrArg (fun s => EStateM.Result.ok () { t with screen := s }) (hstart (y + 1 + 1))

/-- On a blank 3 by 3 screen, `abc` then CR LF leave the cursor on row 2, not row 1. -/
theorem full_line_then_newline_skips_row :
    (finalState (write [.char 'a', .char 'b', .char 'c', .char '\r', .char '\n']
      (ofScreen (Screen.blank (.int 3) (.int 3) 3)))).screen.y.asInt? ≠ some 1 := by
  have hline : ∀ p ∈ ([.char 'a', .char 'b', .char 'c'] : Text),
      Token.isPrintable p = true := by
    intro p hp
    simp only [List.mem_cons, List.not_mem_nil, or_false] at hp
    rcases hp with rfl | rfl | rfl <;> decide
  rw [show ([.char 'a', .char 'b', .char 'c', .char '\r', .char '\n'] : Text) =
    [.char 'a', .char 'b', .char 'c'] ++ [.char '\r', .char '\n'] from rfl, write_run_crlf hline]
  decide +kernel

/-- The line `abc` on the bottom row of a 3 by 3 screen, alone and with CR LF after it. -/
theorem full_line_moves_two_rows_bottom :
    let t := ofScreen { Screen.blank (.int 3) (.int 3) 3 with y := .int 2 }
    let line : Text := [.char 'a', .char 'b', .char 'c']
    0 < 3 ∧ 0 < 3 ∧ 3 < Nat.pow 2 63 ∧ 3 < Nat.pow 2 63 ∧ t.screen.Shaped 3 3 ∧
      t.screen.x = .int 0 ∧ t.screen.y = .int (2 : Nat) ∧ 2 < 3 ∧ line.length = 3 ∧
      (∀ p ∈ line, Token.isPrintable p = true) ∧
      let written : Screen :=
        { t.screen with
          rows := t.screen.rows.set 2 (line.map fun p => ⟨.str [p], t.screen.pen⟩) }
      write line t =
          .ok () { t with
            screen := { written with
              rows := written.scrolledRows (2 + 2 - 3), x := .int 0,
              y := .int ((2 + 1 - (2 + 2 - 3) : Nat) : Int) } } ∧
        write (line ++ [.char '\r', .char '\n']) t =
          .ok () { t with
            screen := { written with
              rows := written.scrolledRows (2 + 3 - 3), x := .int 0,
              y := .int ((2 + 2 - (2 + 3 - 3) : Nat) : Int) } } :=
  have hs : (Screen.blank (.int 3) (.int 3) 3).Shaped 3 3 := Screen.shaped_blank 3 3
  have hs' : ({ Screen.blank (.int 3) (.int 3) 3 with y := .int 2 } : Screen).Shaped 3 3 :=
    ⟨hs.width, hs.height, hs.rows, hs.cols⟩
  have hline : ∀ p ∈ ([.char 'a', .char 'b', .char 'c'] : Text),
      Token.isPrintable p = true := by
    intro p hp
    simp only [List.mem_cons, List.not_mem_nil, or_false] at hp
    rcases hp with rfl | rfl | rfl <;> decide
  ⟨by decide, by decide, by decide, by decide, hs', rfl, rfl, by decide, rfl, hline,
    full_line_moves_two_rows (by decide) (by decide) (by decide) (by decide) hs' rfl rfl
      (by decide) _ rfl hline⟩

/-- `ESC` and one character below U+0080 other than the brackets is skipped whole. -/
theorem write_escape_pair {d : Point} (h1 : d ≠ .char ']') (h2 : d ≠ .char '[')
    (hd : d.code < 0x80) (r : Text) : write (Token.esc :: d :: r) = write r := by
  rw [write, write, Token.scan, Token.first_esc_other r h1 h2, if_pos hd]
  simp only [applyAll, apply, pure_bind]

/-- An `ESC` before a backspace, CR, LF or `ESC` is one escape with it, which does nothing. -/
theorem escape_absorbs_line_control {c : Point}
    (hc : c = .char '\x08' ∨ c = .char '\r' ∨ c = .char '\n' ∨ c = Token.esc) (r : Text) :
    write (Token.esc :: c :: r) = write r := by
  have hpair : c ≠ .char ']' ∧ c ≠ .char '[' ∧ c.code < 0x80 := by
    rcases hc with rfl | rfl | rfl | rfl <;> decide
  exact write_escape_pair hpair.1 hpair.2.1 hpair.2.2 r

theorem escape_absorbs_line_control_feed :
    ((.char '\n' : Point) = .char '\x08' ∨ (.char '\n' : Point) = .char '\r' ∨
        (.char '\n' : Point) = .char '\n' ∨ (.char '\n' : Point) = Token.esc) ∧
      write [Token.esc, .char '\n', .char 'a'] = write [.char 'a'] :=
  ⟨by decide, escape_absorbs_line_control (.inr (.inr (.inl rfl))) [.char 'a']⟩

/-- On a blank screen, `ESC` then a line feed leave the cursor on the top row. -/
theorem escape_swallows_line_feed :
    write [Token.esc, .char '\n'] (ofScreen (Screen.blank (.int 10) (.int 3) 10)) ≠
      write [.char '\n'] (ofScreen (Screen.blank (.int 10) (.int 3) 10)) := by
  intro h
  have hrow := congrArg (fun r => (finalState r).screen.y.asInt?) h
  rw [write_escape_pair (by decide) (by decide) (by decide)] at hrow
  have h0 : (finalState (write [] (ofScreen (Screen.blank (.int 10) (.int 3) 10)))).screen.y.asInt?
      = some 0 := by
    rw [write, Token.scan]
    rfl
  have h1 : (finalState (write [.char '\n']
      (ofScreen (Screen.blank (.int 10) (.int 3) 10)))).screen.y.asInt? = some 1 := by
    rw [write, Token.scan, Token.first_plain [] (by decide) (by decide) (by decide) (by decide),
      Token.scan]
    rfl
  simp only [h0, h1] at hrow
  exact absurd hrow (by decide)

end Terminal

end TermSnap
