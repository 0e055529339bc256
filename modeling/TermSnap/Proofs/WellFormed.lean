import TermSnap.Proofs.Keeps
import TermSnap.Proofs.Motion
import TermSnap.Render
/-!
# The screen invariant

A screen made with `W ≥ 1` columns and `H ≥ 1` rows stays well formed whatever is written to it:
`H` rows of `W` sound cells, a colour in the pen, the cursor's column on the screen and its row
above the bottom edge. Each screen step keeps it whether it returns or fails, so every write does
(`writes_keep_screen_wellFormed`), and a well-formed screen renders with no fault.
-/

namespace TermSnap

theorem Except.bind_eq_ok {ε α β : Type} {x : Except ε α} {f : α → Except ε β} {b : β}
    (h : (x >>= f) = .ok b) : ∃ a, x = .ok a ∧ f a = .ok b := by
  cases x with
  | error e => cases h
  | ok a => exact ⟨a, rfl, h⟩

namespace Value

/-- Whether a value is a glyph a cell can show: one printable character. -/
def isGlyph : Value → Bool
  | str [p] => Token.isPrintable p
  | _ => false

/-- Whether a value is a colour: the default, a palette entry from 0 to 7, or a triple of
nonnegative integers. -/
def isColour : Value → Bool
  | null => true
  | int n => 0 ≤ n && n ≤ 7
  | tuple [int r, int g, int b] => 0 ≤ r && 0 ≤ g && 0 ≤ b
  | _ => false

end Value

/-- Whether a cell shows one printable character in a colour. -/
def Cell.isSound (c : Cell) : Bool := c.glyph.isGlyph && c.colour.isColour

namespace Screen

/-- The representation invariant of a screen of `H` rows of `W` cells. -/
structure WellFormed (W H : Nat) (s : Screen) : Prop extends Shaped W H s where
  /-- The screen has a row. -/
  height_pos : 0 < H
  /-- Every cell shows one printable character in a colour. -/
  cells : ∀ row ∈ s.rows, ∀ c ∈ row, c.isSound = true
  /-- The pen holds a colour. -/
  pen : s.pen.isColour = true
  /-- The cursor's column is an integer on the screen. -/
  column : ∃ x : Int, s.x = .int x ∧ 0 ≤ x ∧ x < W
  /-- The cursor's row is an integer above the bottom edge; it may be above the top. -/
  row : ∃ y : Int, s.y = .int y ∧ y < H

/-! ### Reading and replacing at a signed index -/

theorem mem_of_listAt? {α : Type} {xs : List α} {i : Int} {a : α} (h : listAt? xs i = some a) :
    a ∈ xs := by
  unfold listAt? at h
  obtain ⟨k, -, hk⟩ := Option.bind_eq_some_iff.mp h
  exact List.mem_of_getElem? hk

theorem listSet?_eq_some {α : Type} {xs ys : List α} {i : Int} {a : α}
    (h : listSet? xs i a = some ys) : ys.length = xs.length ∧ ∀ b ∈ ys, b ∈ xs ∨ b = a := by
  unfold listSet? at h
  obtain ⟨k, -, rfl⟩ := Option.map_eq_some_iff.mp h
  exact ⟨List.length_set .., fun b hb => List.mem_or_eq_of_mem_set hb⟩

theorem mem_of_pick {α : Type} {xs : List α} {v : Value} {a : α} (h : v.pick xs = .ok a) :
    a ∈ xs := by
  obtain ⟨i, -, h⟩ := Except.bind_eq_ok h
  cases ha : listAt? xs i with
  | none => rw [ha] at h; cases h
  | some b =>
    rw [ha] at h
    cases h
    exact mem_of_listAt? ha

theorem replace_eq_ok {α : Type} {xs ys : List α} {v : Value} {a : α}
    (h : v.replace xs a = .ok ys) : ys.length = xs.length ∧ ∀ b ∈ ys, b ∈ xs ∨ b = a := by
  obtain ⟨i, -, h⟩ := Except.bind_eq_ok h
  cases hs : listSet? xs i a with
  | none => rw [hs] at h; cases h
  | some zs =>
    rw [hs] at h
    cases h
    exact listSet?_eq_some hs

theorem setCell_eq_ok {s s' : Screen} {x y : Value} {c : Cell} (h : s.setCell x y c = .ok s') :
    ∃ rows : List (List Cell), s' = { s with rows } ∧ rows.length = s.rows.length ∧
      ∀ row' ∈ rows, row' ∈ s.rows ∨
        ∃ row ∈ s.rows, row'.length = row.length ∧ ∀ c' ∈ row', c' ∈ row ∨ c' = c := by
  obtain ⟨row, hrow, h⟩ := Except.bind_eq_ok h
  obtain ⟨row', hrow', h⟩ := Except.bind_eq_ok h
  obtain ⟨rows, hrows, h⟩ := Except.bind_eq_ok h
  cases h
  obtain ⟨hlen, hmem⟩ := replace_eq_ok hrows
  obtain ⟨hlen', hmem'⟩ := replace_eq_ok hrow'
  refine ⟨rows, rfl, hlen, fun r hr => ?_⟩
  rcases hmem r hr with hold | rfl
  · exact .inl hold
  · exact .inr ⟨row, mem_of_pick hrow, hlen', hmem'⟩

/-! ### Screen steps keep the invariant -/

variable {W H : Nat}

theorem WellFormed.rows_length_pos {s : Screen} (hs : s.WellFormed W H) : 0 < s.rows.length := by
  rw [hs.rows]
  exact hs.height_pos

theorem WellFormed.column_bounds {s : Screen} (hs : s.WellFormed W H) {x : Int}
    (hx : s.x = .int x) : 0 ≤ x ∧ x < W := by
  obtain ⟨x', hx', hx0, hxW⟩ := hs.column
  rw [hx] at hx'
  cases hx'
  exact ⟨hx0, hxW⟩

theorem WellFormed.row_lt {s : Screen} (hs : s.WellFormed W H) {y : Int} (hy : s.y = .int y) :
    y < H := by
  obtain ⟨y', hy', hyH⟩ := hs.row
  rw [hy] at hy'
  cases hy'
  exact hyH

theorem wellFormed_blank (hW : 0 < W) (hH : 0 < H) :
    (blank (.int W) (.int H) W).WellFormed W H where
  toShaped := shaped_blank W H
  height_pos := hH
  cells := by
    intro row hrow c hc
    simp only [blank, Value.asInt?, Option.getD_some, List.mem_replicate] at hrow
    rw [hrow.2] at hc
    rw [(List.mem_replicate.mp hc).2]
    decide
  pen := rfl
  column := ⟨0, rfl, Int.le_refl 0, by omega⟩
  row := ⟨0, rfl, by omega⟩

theorem make_int (W : Nat) (hH : 0 < H) :
    make (.int W) (.int H) = .ok (blank (.int W) (.int H) W) := by
  have h : ¬ (H : Int) ≤ 0 := by omega
  show (if (H : Int) ≤ 0 then (pure (blank (.int W) (.int H) 0) : Except Fault Screen)
    else pure (blank (.int W) (.int H) W)) = _
  rw [if_neg h]
  rfl

theorem keeps_put (x y : Value) {g : Value} (hg : g.isGlyph = true) :
    Keeps (WellFormed W H) (put x y g) := by
  intro s hs
  unfold put
  cases h : s.setCell x y ⟨g, s.pen⟩ with
  | error e => exact hs
  | ok s' =>
    obtain ⟨rows, rfl, hlen, hrows⟩ := setCell_eq_ok h
    have hnew : Cell.isSound ⟨g, s.pen⟩ = true := by
      simp only [Cell.isSound, hg, hs.pen, Bool.and_self]
    exact { hs with
      rows := hlen.trans hs.rows
      cols := fun r hr => by
        rcases hrows r hr with hold | ⟨row, hrow, hl, -⟩
        · exact hs.cols r hold
        · exact hl.trans (hs.cols row hrow)
      cells := fun r hr c hc => by
        rcases hrows r hr with hold | ⟨row, hrow, -, hcs⟩
        · exact hs.cells r hold c hc
        · rcases hcs c hc with hc' | rfl
          · exact hs.cells row hrow c hc'
          · exact hnew }

theorem keeps_setPen {c : Value} (hc : c.isColour = true) : Keeps (WellFormed W H) (setPen c) :=
  fun _ hs => { hs with pen := hc }

theorem WellFormed.scrolledRows {s : Screen} (hs : s.WellFormed W H) (k : Nat) :
    ∀ row ∈ s.scrolledRows k, ∀ c ∈ row, c.isSound = true := by
  intro row hrow c hc
  rcases List.mem_append.mp hrow with hd | hb
  · exact hs.cells row (List.mem_of_mem_drop hd) c hc
  · rw [List.eq_of_mem_replicate hb, blankRow] at hc
    rw [List.eq_of_mem_replicate hc]
    simp only [Cell.isSound, hs.pen, Bool.and_true]
    decide

theorem keeps_move (dx dy : Int) : Keeps (WellFormed W H) (move (.int dx) (.int dy)) := by
  intro s hs
  obtain ⟨x, hx, hx0, hxW⟩ := hs.column
  obtain ⟨y, hy, -⟩ := hs.row
  rw [move_int s hx hy hs.width hs.height hs.rows_length_pos dx dy]
  exact { hs with
    rows := (length_scrolledRows s _).trans hs.rows
    cols := hs.toShaped.scrolledRows _
    cells := hs.scrolledRows _
    column := ⟨_, rfl, columnAfter_nonneg _ _, columnAfter_lt _ (by omega)⟩
    row := ⟨_, rfl, by omega⟩ }

theorem keeps_erase (function param : Value) : Keeps (WellFormed W H) (erase function param) := by
  have hput : ∀ x y : Value, Keeps (WellFormed W H) (put x y (.text " ")) :=
    fun x y => keeps_put x y (by decide)
  unfold erase
  refine Keeps.bind Keeps.get fun s => Keeps.bind (keeps_lift _) fun ⟨x0, x1, y0, y1⟩ => ?_
  refine Keeps.bind (keeps_lift _) fun x0 => Keeps.bind (keeps_lift _) fun x1 =>
    Keeps.bind (keeps_blankRun _ (fun x => hput _ _) _ _) fun _ => ?_
  split
  · exact Keeps.pure ()
  · exact Keeps.bind (keeps_lift _) fun y0 => Keeps.bind (keeps_lift _) fun y1 =>
      keeps_blankRows (fun x y => hput _ _) _ _

end Screen

/-! ### Counts of graphic renditions -/

theorem List.mem_of_mapM_eq_ok {ε α β : Type} {f : α → Except ε β} {xs : List α} {ys : List β}
    (h : xs.mapM f = .ok ys) : ∀ y ∈ ys, ∃ x ∈ xs, f x = .ok y := by
  induction xs generalizing ys with
  | nil =>
    cases h
    simp
  | cons x xs ih =>
    rw [List.mapM_cons] at h
    obtain ⟨y, hy, h⟩ := Except.bind_eq_ok h
    obtain ⟨ys', hys', h⟩ := Except.bind_eq_ok h
    cases h
    intro z hz
    rcases List.mem_cons.mp hz with rfl | hz
    · exact ⟨x, List.mem_cons_self, hy⟩
    · obtain ⟨x', hx', hfx⟩ := ih hys' z hz
      exact ⟨x', List.mem_cons_of_mem _ hx', hfx⟩

theorem isDigit_of_mem_digitRuns {cs run : Text} (h : run ∈ digitRuns cs) :
    ∀ c ∈ run, Text.isDigit c = true := by
  induction cs using digitRuns.induct with
  | case1 x hx =>
    rw [digitRuns] at h
    split at h
    · simp at h
    · rename_i heq
      rw [hx] at heq
      cases heq
  | case2 x c rest hx _ ih =>
    rw [digitRuns] at h
    split at h
    · rename_i heq
      rw [hx] at heq
      cases heq
    · rename_i c' rest' heq
      rw [hx] at heq
      cases heq
      rcases List.mem_cons.mp h with rfl | h
      · intro d hd
        rcases List.mem_cons.mp hd with rfl | hd
        · have hne : x.dropWhile (fun c => !Text.isDigit c) ≠ [] := by simp [hx]
          have := List.head_dropWhile_not (fun c => !Text.isDigit c) hne
          simp only [hx, List.head_cons, Bool.not_eq_false'] at this
          exact this
        · exact Token.of_mem_takeWhile hd
      · exact ih h

theorem codes_nonneg {t : Text} {codes : List Int}
    (h : (digitRuns t).mapM readCount = .ok codes) : ∀ n ∈ codes, 0 ≤ n := by
  intro n hn
  obtain ⟨run, hrun, hr⟩ := List.mem_of_mapM_eq_ok h n hn
  apply Text.readInt_nonneg (readInt_of_readCount hr)
  intro s₁ s₂ heq
  -- a minus sign is no digit, so a run of digits has none to split at
  have hminus : Point.char '-' ∈ run := by rw [heq]; simp
  have := isDigit_of_mem_digitRuns hrun _ hminus
  rw [Text.isDigit_of_lt (by decide)] at this
  cases this

theorem Rendition.ofCode_palette {n i : Int} (h : Rendition.ofCode n = .palette i) :
    0 ≤ i ∧ i ≤ 7 := by
  unfold Rendition.ofCode at h
  split at h
  · cases h
  · split at h
    · cases h
    · split at h
      · rename_i hr
        cases h
        omega
      · split at h <;> cases h

/-! ### Terminal operations keep the invariant -/

namespace Terminal

open Screen

variable {W H : Nat}

theorem keeps_moveBy (dx dy : Int) :
    Keeps (fun t : Terminal => t.screen.WellFormed W H) (moveBy (.int dx) (.int dy)) :=
  keeps_onScreen (keeps_move dx dy)

theorem keeps_setPen {c : Value} (hc : c.isColour = true) :
    Keeps (fun t : Terminal => t.screen.WellFormed W H) (setPen c) :=
  keeps_onScreen (Screen.keeps_setPen hc)

theorem keeps_negatedColumn_bind {α : Type} {f : Value → M α}
    (hf : ∀ x : Int, Keeps (fun t : Terminal => t.screen.WellFormed W H) (f (.int x))) :
    Keeps (fun t : Terminal => t.screen.WellFormed W H) (negatedColumn >>= f) := by
  intro t ht
  obtain ⟨x, hx, -⟩ := ht.column
  rw [bind_ok_of (negatedColumn_eq hx)]
  exact hf (-x) t ht

theorem keeps_column_bind {α : Type} {f : Value → M α}
    (hf : ∀ x : Int, Keeps (fun t : Terminal => t.screen.WellFormed W H) (f (.int x))) :
    Keeps (fun t : Terminal => t.screen.WellFormed W H) (column >>= f) := by
  intro t ht
  obtain ⟨x, hx, -⟩ := ht.column
  rw [bind_ok_of (column_eq hx)]
  exact hf x t ht

theorem keeps_printGlyph {g : Value} (hg : g.isGlyph = true) :
    Keeps (fun t : Terminal => t.screen.WellFormed W H) (printGlyph g) :=
  keeps_onScreen (Keeps.bind Keeps.get fun s =>
    Keeps.bind (keeps_put s.x s.y hg) fun _ => keeps_move 1 0)

theorem keeps_backspace : Keeps (fun t : Terminal => t.screen.WellFormed W H) backspace :=
  keeps_onScreen (Keeps.bind (keeps_move (-1) 0) fun _ =>
    Keeps.bind Keeps.get fun s => keeps_put s.x s.y (by decide))

theorem keeps_home (dy : Int) : Keeps (WellFormed W H)
    (do let s ← get; Screen.move (← Screen.lift s.x.neg) (.int dy)) := by
  intro s hs
  obtain ⟨x, hx, -⟩ := hs.column
  show WellFormed W H (finalState ((Screen.lift s.x.neg >>= fun d => move d (.int dy)) s))
  rw [hx, Value.neg_int]
  exact keeps_move (-x) dy s hs

theorem keeps_carriageReturn :
    Keeps (fun t : Terminal => t.screen.WellFormed W H) carriageReturn :=
  keeps_onScreen (keeps_home 0)

theorem keeps_lineFeed : Keeps (fun t : Terminal => t.screen.WellFormed W H) lineFeed :=
  keeps_onScreen (keeps_home 1)

theorem keeps_renditions (codes : List Int) (h : ∀ n ∈ codes, 0 ≤ n) :
    Keeps (fun t : Terminal => t.screen.WellFormed W H) (renditions codes) := by
  induction codes using renditions.induct with
  | case1 =>
    rw [renditions]
    exact Keeps.pure ()
  | case2 n rest hn ih =>
    rw [renditions.eq_def]
    simp only [hn]
    exact Keeps.bind (keeps_setPen rfl) fun _ => ih fun m hm => h m (List.mem_cons_of_mem _ hm)
  | case3 n rest i hn ih =>
    have hi := Rendition.ofCode_palette hn
    have hc : (Value.int i).isColour = true := by simp [Value.isColour, hi.1, hi.2]
    rw [renditions.eq_def]
    simp only [hn]
    exact Keeps.bind (keeps_setPen hc) fun _ => ih fun m hm => h m (List.mem_cons_of_mem _ hm)
  | case4 n rest hn ih =>
    rw [renditions.eq_def]
    simp only [hn]
    exact ih fun m hm => h m (List.mem_cons_of_mem _ hm)
  | case5 n rest code hn ih =>
    rw [renditions.eq_def]
    simp only [hn]
    exact Keeps.bind (keeps_note _) fun _ => ih fun m hm => h m (List.mem_cons_of_mem _ hm)
  | case6 n hn r ih =>
    rw [renditions.eq_def]
    simp only [hn, if_pos]
    exact Keeps.bind (keeps_setPen rfl) fun _ =>
      ih fun m hm => h m (List.mem_cons_of_mem _ (List.mem_cons_of_mem _ hm))
  | case7 n hn m hm5 a b more ih =>
    have hc : (Value.tuple [.int m, .int a, .int b]).isColour = true := by
      have hm := h m (by simp)
      have ha := h a (by simp)
      have hb := h b (by simp)
      simp [Value.isColour, hm, ha, hb]
    rw [renditions.eq_def]
    simp only [hn, if_neg hm5]
    exact Keeps.bind (keeps_setPen hc) fun _ => ih fun k hk => h k (by simp [hk])
  | case8 n hn m hm5 a ih =>
    rw [renditions.eq_def]
    simp only [hn, if_neg hm5]
    exact Keeps.bind (keeps_note _) fun _ => ih fun k hk => h k (by simp_all)
  | case9 n hn m hm5 ih =>
    rw [renditions.eq_def]
    simp only [hn, if_neg hm5]
    exact Keeps.bind (keeps_note _) fun _ => ih fun k hk => h k (by simp_all)
  | case10 n hn ih =>
    rw [renditions.eq_def]
    simp only [hn]
    exact Keeps.bind (keeps_note _) fun _ => ih fun k hk => by cases hk

theorem keeps_graphic (params : Value) :
    Keeps (fun t : Terminal => t.screen.WellFormed W H) (graphic params) := by
  unfold graphic
  split
  · exact keeps_setPen rfl
  · split
    · rename_i t _
      intro u hu
      cases hc : (digitRuns t).mapM readCount with
      | error e => exact hu
      | ok codes => exact keeps_renditions codes (codes_nonneg hc) u hu
    · exact Keeps.throw _

/-- Every control function keeps the invariant, whatever its parameters. -/
theorem keeps_control (params final : Value) :
    Keeps (fun t : Terminal => t.screen.WellFormed W H) (control params final) := by
  unfold control
  refine Keeps.ite (keeps_graphic params) ?_
  refine Keeps.ite (keeps_onScreen (keeps_erase final params)) ?_
  -- the cursor motions `A` to `D`: a count, then a move along one axis
  refine Keeps.ite (Keeps.bind (keeps_lift _) fun n => keeps_moveBy 0 (-n)) ?_
  refine Keeps.ite (Keeps.bind (keeps_lift _) fun n => keeps_moveBy 0 n) ?_
  refine Keeps.ite (Keeps.bind (keeps_lift _) fun n => keeps_moveBy n 0) ?_
  refine Keeps.ite (Keeps.bind (keeps_lift _) fun n => keeps_moveBy (-n) 0) ?_
  -- `E` and `F` move by the negated column, back to column 0
  refine Keeps.ite (keeps_negatedColumn_bind fun x =>
    Keeps.bind (keeps_lift _) fun n => keeps_moveBy x n) ?_
  refine Keeps.ite (keeps_negatedColumn_bind fun x =>
    Keeps.bind (keeps_lift _) fun n => keeps_moveBy x (-n)) ?_
  -- `G` moves by the count less the column
  refine Keeps.ite (Keeps.bind (keeps_lift _) fun n => keeps_column_bind fun x => ?_) ?_
  · intro t ht
    rw [lift_bind_ok (Value.sub_int n x) t]
    exact keeps_moveBy (n - x) 0 t ht
  -- `H` and `f` move by the fields less one, when the parameters are text
  refine Keeps.ite ?_ (keeps_note _)
  dsimp only
  split
  · refine Keeps.bind (Keeps.pure _) fun fields => Keeps.bind (keeps_lift _) fun values => ?_
    split
    · exact keeps_moveBy 0 0
    · exact keeps_moveBy _ 0
    · exact keeps_moveBy _ _
  · exact Keeps.throw_bind _ _

theorem keeps_controlSequence (seq : Value) :
    Keeps (fun t : Terminal => t.screen.WellFormed W H) (controlSequence seq) :=
  Keeps.bind (keeps_lift _) fun ⟨final, params⟩ => keeps_control params final

theorem keeps_apply {tok : Token} (h : tok.Admitted) :
    Keeps (fun t : Terminal => t.screen.WellFormed W H) (apply tok) := by
  cases tok with
  | command => exact Keeps.pure ()
  | control i ps is f => exact keeps_controlSequence _
  | escape => exact Keeps.pure ()
  | text run =>
    refine keeps_printGlyphs _ fun g hg => ?_
    obtain ⟨c, hc, rfl⟩ := List.mem_map.mp hg
    exact keeps_printGlyph (h c hc)
  | backspace => exact keeps_backspace
  | carriageReturn => exact keeps_carriageReturn
  | lineFeed => exact keeps_lineFeed
  | stray => exact keeps_note _

/-- Writing any text keeps the invariant, whether the write returns or fails part way. -/
theorem keeps_write (d : Text) : Keeps (fun t : Terminal => t.screen.WellFormed W H) (write d) :=
  keeps_applyAll _ fun tok htok => keeps_apply (Token.admitted_scan d tok htok)

theorem keeps_writes (outs : List Text) {t : Terminal} (ht : t.screen.WellFormed W H) :
    (outs.foldl (fun t d => finalState (write d t)) t).screen.WellFormed W H := by
  induction outs generalizing t with
  | nil => exact ht
  | cons d ds ih => exact ih (keeps_write d t ht)

end Terminal

/-! ### Rendering a well-formed screen -/

theorem Value.eq_of_isGlyph {g : Value} (h : g.isGlyph = true) :
    ∃ p, g = .str [p] ∧ Token.isPrintable p = true := by
  unfold Value.isGlyph at h
  split at h
  · exact ⟨_, rfl, h⟩
  · cases h

theorem mem_rowMarks {prev : Value} {row : List Cell} {m : Mark} (h : m ∈ (rowMarks prev row).1) :
    ∃ c ∈ row, m = .colour c.colour ∨ m = .glyph c.glyph := by
  induction row generalizing prev with
  | nil => simp [rowMarks] at h
  | cons c rest ih =>
    rcases hr : rowMarks c.colour rest with ⟨ms, last⟩
    simp only [rowMarks, hr, List.mem_append, List.mem_cons] at h
    rcases h with hchange | rfl | hm
    · refine ⟨c, List.mem_cons_self, .inl ?_⟩
      split at hchange
      · cases hchange
      · exact List.mem_singleton.mp hchange
    · exact ⟨c, List.mem_cons_self, .inr rfl⟩
    · have hm' : m ∈ (rowMarks c.colour rest).1 := by rw [hr]; exact hm
      obtain ⟨c', hc', h'⟩ := ih hm'
      exact ⟨c', List.mem_cons_of_mem _ hc', h'⟩

theorem mem_rowsMarks {prev : Value} {rows : List (List Cell)} {m : Mark}
    (h : m ∈ rowsMarks prev rows) :
    m = .newline ∨ ∃ row ∈ rows, ∃ c ∈ row, m = .colour c.colour ∨ m = .glyph c.glyph := by
  induction rows generalizing prev with
  | nil => simp [rowsMarks] at h
  | cons row rest ih =>
    rcases hr : rowMarks prev row with ⟨ms, last⟩
    simp only [rowsMarks, hr, List.mem_append, List.mem_cons] at h
    rcases h with hm | rfl | hm
    · have hm' : m ∈ (rowMarks prev row).1 := by rw [hr]; exact hm
      exact .inr ⟨row, List.mem_cons_self, mem_rowMarks hm'⟩
    · exact .inl rfl
    · rcases ih hm with hn | ⟨row', hrow', hc⟩
      · exact .inl hn
      · exact .inr ⟨row', List.mem_cons_of_mem _ hrow', hc⟩

namespace Format

theorem spell_of_ok (f : Format) {ms : List Mark} (h : ∀ m ∈ ms, ∃ t, f.mark m = .ok t) :
    (f.spell ms).2 = none := by
  induction ms with
  | nil => rfl
  | cons m ms ih =>
    obtain ⟨t, ht⟩ := h m List.mem_cons_self
    have hrest := ih fun m' hm' => h m' (List.mem_cons_of_mem _ hm')
    rcases hs : f.spell ms with ⟨rest, e⟩
    rw [hs] at hrest
    simp only [spell, ht, hs]
    exact hrest

theorem colour_ok (f : Format) {c : Value} (hc : c.isColour = true) : ∃ t, f.colour c = .ok t := by
  unfold Value.isColour at hc
  split at hc
  · exact ⟨_, rfl⟩
  · exact ⟨_, rfl⟩
  · exact ⟨_, rfl⟩
  · cases hc

/-- A well-formed screen renders with no fault in a format that spells every printable glyph. -/
theorem render_ok {W H : Nat} {s : Screen} (hs : s.WellFormed W H) (f : Format)
    (hf : ∀ p, Token.isPrintable p = true → ∃ t, f.glyph (.str [p]) = .ok t) :
    (f.render s).2 = none := by
  apply spell_of_ok
  intro m hm
  rcases mem_rowsMarks hm with rfl | ⟨row, hrow, c, hc, rfl | rfl⟩
  · exact ⟨_, rfl⟩
  · have hsound := hs.cells row hrow c hc
    simp only [Cell.isSound, Bool.and_eq_true] at hsound
    exact colour_ok f hsound.2
  · have hsound := hs.cells row hrow c hc
    simp only [Cell.isSound, Bool.and_eq_true] at hsound
    obtain ⟨p, hp, hpr⟩ := Value.eq_of_isGlyph hsound.1
    rw [hp]
    exact hf p hpr

theorem latex_glyph_ok (p : Point) : ∃ t, latex.glyph (.str [p]) = .ok t :=
  ⟨_, rfl⟩

theorem ansi_glyph_ok (p : Point) : ∃ t, ansi.glyph (.str [p]) = .ok t :=
  ⟨_, rfl⟩

end Format

end TermSnap

namespace TermSnap

/-- A screen made `W` cells wide and `H` rows high stays well formed whatever texts are written
to it in turn, and renders in either format with no fault. -/
theorem writes_keep_screen_wellFormed {W H : Nat} (hW : 0 < W) (hH : 0 < H) :
    ∃ s, Screen.make (.int W) (.int H) = .ok s ∧
      ∀ outs : List Text,
        let t := outs.foldl (fun t d => finalState (Terminal.write d t)) (Terminal.ofScreen s)
        t.screen.WellFormed W H ∧ (Format.latex.render t.screen).2 = none ∧
          (Format.ansi.render t.screen).2 = none := by
  refine ⟨_, Screen.make_int W hH, fun outs => ?_⟩
  have hrun := Terminal.keeps_writes (t := Terminal.ofScreen _) outs (Screen.wellFormed_blank hW hH)
  exact ⟨hrun, Format.render_ok hrun _ fun p _ => Format.latex_glyph_ok p,
    Format.render_ok hrun _ fun p _ => Format.ansi_glyph_ok p⟩

/-- Texts written in turn to a screen ten cells wide and three rows high. -/
theorem writes_keep_screen_wellFormed_ten_by_three :
    0 < 10 ∧ 0 < 3 ∧
      ∃ s, Screen.make (.int 10) (.int 3) = .ok s ∧
        ∀ outs : List Text,
          let t := outs.foldl (fun t d => finalState (Terminal.write d t)) (Terminal.ofScreen s)
          t.screen.WellFormed 10 3 ∧ (Format.latex.render t.screen).2 = none ∧
            (Format.ansi.render t.screen).2 = none :=
  ⟨by decide, by decide, writes_keep_screen_wellFormed (by decide) (by decide)⟩

end TermSnap
