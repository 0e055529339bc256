import TermSnap.Proofs.Keeps
import TermSnap.Proofs.Tokens
import TermSnap.Screen.ScrollLoop
import TermSnap.Terminal.Write
/-!
# Cursor motion

On a screen whose cursor and size are integers a move by integers has a closed form (`move_int`):
the column goes to `columnAfter`, the row aimed at is `rowAimed`, and the grid scrolls by as many
rows as that row is below the bottom one. Each cursor sequence is one such move or a fault
(`cursor_sequence_moves`), and the row is not stopped at the top edge (`cursor_up_by_count`).
-/

namespace TermSnap

namespace Screen

/-- The screen's grid is as its declared size says: `H` rows of `W` cells. -/
structure Shaped (W H : Nat) (s : Screen) : Prop where
  width : s.width = .int W
  height : s.height = .int H
  rows : s.rows.length = H
  cols : ∀ row ∈ s.rows, row.length = W

/-- The column a move ends on, from the column `x` it aims at: 0 past either edge. -/
def columnAfter (W x : Int) : Int := if W ≤ x ∨ x < 0 then 0 else x

/-- The row a move aims at: one row further down when the column is at or past the right edge. -/
def rowAimed (W x y : Int) : Int := if W ≤ x then y + 1 else y

theorem columnAfter_nonneg (W x : Int) : 0 ≤ columnAfter W x := by
  unfold columnAfter
  split <;> omega

theorem columnAfter_lt {W : Int} (x : Int) (hW : 0 < W) : columnAfter W x < W := by
  unfold columnAfter
  split <;> omega

theorem columnAfter_of_lt {W x : Int} (h0 : 0 ≤ x) (hW : x < W) : columnAfter W x = x := by
  unfold columnAfter
  split <;> omega

theorem rowAimed_of_lt {W x : Int} (y : Int) (hW : x < W) : rowAimed W x y = y := by
  unfold rowAimed
  split <;> omega

theorem move_eq_scroll (s : Screen) {x y W : Int} (hx : s.x = .int x) (hy : s.y = .int y)
    (hW : s.width = .int W) (dx dy : Int) :
    move (.int dx) (.int dy) s =
      scroll { s with x := .int (columnAfter W (x + dx)), y := .int (rowAimed W (x + dx) (y + dy)) } := by
  by_cases hw : W ≤ x + dx
  · simp [move, hx, hy, hW, hw, columnAfter, rowAimed, Int.add_assoc]
  · by_cases hl : x + dx < 0
    · simp [move, hx, hy, hW, hw, hl, columnAfter, rowAimed]
    · simp [move, hx, hy, hW, hw, hl, columnAfter, rowAimed]

/-- A move by integers: the column lands on `columnAfter`, and the rows scroll up by `k`, as far
as the row aimed at is below the bottom row, the cursor row coming back by `k`. -/
theorem move_int (s : Screen) {x y W H : Int} (hx : s.x = .int x) (hy : s.y = .int y)
    (hW : s.width = .int W) (hH : s.height = .int H) (hne : 0 < s.rows.length) (dx dy : Int) :
    move (.int dx) (.int dy) s =
      .ok () { s with x := .int (columnAfter W (x + dx)),
                      y := .int (rowAimed W (x + dx) (y + dy) -
                        ((rowAimed W (x + dx) (y + dy) - H + 1).toNat : Int)),
                      rows := s.scrolledRows (rowAimed W (x + dx) (y + dy) - H + 1).toNat } := by
  rw [move_eq_scroll s hx hy hW]
  exact scroll_eq_scrolledBy _ _ W H rfl hW hH hne

theorem shaped_blank (W H : Nat) : (blank (.int W) (.int H) W).Shaped W H where
  width := rfl
  height := rfl
  rows := by simp [blank, Value.asInt?]
  cols := by simp [blank]

theorem Shaped.scrolledRows {W H : Nat} {s : Screen} (h : s.Shaped W H) (k : Nat) :
    ∀ row ∈ s.scrolledRows k, row.length = W := by
  intro row hrow
  rcases List.mem_append.mp hrow with hd | hb
  · exact h.cols row (List.mem_of_mem_drop hd)
  · rw [List.eq_of_mem_replicate hb, length_blankRow, columns, h.width]
    rfl

end Screen

namespace Text

/-! ### Counts read from control sequences -/

theorem splitSignText_true {d cs : Text} (h : splitSignText d = (true, cs)) :
    d = .char '-' :: cs := by
  unfold splitSignText at h
  split at h <;> simp_all

theorem readInt_nonneg {s : Text} {n : Int} (h : readInt s = .ok n)
    (hs : ∀ s₁ s₂, s = s₁ ++ .char '-' :: s₂ → ∀ p ∈ s₂, isDigit p = false) : 0 ≤ n := by
  unfold readInt at h
  rcases hsp : splitSignText (s.dropWhile isBlank) with ⟨neg, cs⟩
  simp only [hsp] at h
  split at h
  · simp at h
  · split at h
    · simp at h
    · split at h
      · simp at h
      · rename_i hdig
        simp only [Except.ok.injEq] at h
        subst h
        cases neg with
        | false => simp
        | true =>
          exfalso
          have hsplit : s = s.takeWhile isBlank ++ .char '-' :: cs := by
            rw [← splitSignText_true hsp, List.takeWhile_append_dropWhile]
          simp only [Bool.or_eq_true, Bool.not_eq_true', not_or, Bool.not_eq_false] at hdig
          obtain ⟨q, hq, hqd⟩ : ∃ q ∈ cs.takeWhile isDigitOrUnderscore, digitValue? q ≠ none := by
            simpa using hdig.1
          have := hs _ _ hsplit q (List.takeWhile_subset _ hq)
          simp [isDigit, hqd] at this

theorem isDigit_of_lt {p : Point} (h : p.code < 0x30) : isDigit p = false := by
  have hz : ∀ z ∈ digitZeros, 0x30 ≤ z := by decide
  simp only [isDigit, digitValue?, Option.isSome_map]
  rw [Option.isSome_eq_false_iff, Option.isNone_iff_eq_none, List.find?_eq_none]
  intro z hz'
  have := hz z hz'
  simp only [Bool.and_eq_true, decide_eq_true_eq, not_and, Nat.not_lt]
  omega

end Text

theorem readInt_of_readCount {t : Text} {n : Int} (h : readCount t = .ok n) :
    Text.readInt t = .ok n := by
  unfold readCount at h
  cases hr : Text.readInt t with
  | error e => rw [hr] at h; cases h
  | ok m =>
    rw [hr] at h
    have h' : (Except.ok m : Except Fault Int) = .ok n := h
    cases h'
    rfl

/-- The count of a control sequence is never negative: a minus sign is an intermediate. -/
theorem motionCount_nonneg {ps is : Text} (hps : ∀ p ∈ ps, Token.isParam p = true)
    (his : ∀ p ∈ is, Token.isIntermediate p = true) {n : Int}
    (h : motionCount (.str (ps ++ is)) = .ok n) : 0 ≤ n := by
  unfold motionCount at h
  split at h
  · simp only [Except.ok.injEq] at h
    omega
  · apply Text.readInt_nonneg (readInt_of_readCount h)
    intro s₁ s₂ heq p hp
    have hsub : s₂ ⊆ is := by
      rcases List.append_eq_append_iff.mp heq.symm with ⟨a', hps', hrest⟩ | ⟨c', _, his'⟩
      · cases a' with
        | nil =>
          rw [List.nil_append] at hrest
          rw [← hrest]
          exact List.subset_cons_self _ _
        | cons a as =>
          simp only [List.cons_append, List.cons.injEq] at hrest
          have := hps a (by rw [hps']; exact List.mem_append_right _ List.mem_cons_self)
          rw [← hrest.1] at this
          exact absurd this (by decide)
      · rw [his']
        exact List.subset_append_of_subset_right _ (List.subset_cons_self _ _)
    have hi := his p (hsub hp)
    simp only [Token.isIntermediate, Bool.and_eq_true, decide_eq_true_eq] at hi
    exact Text.isDigit_of_lt (by omega)

theorem Value.isText_str (p : Text) (t : String) :
    (Value.str p).isText t = decide (p = Text.ofString t) := by
  simp only [Value.isText]
  exact Bool.eq_iff_iff.mpr (by simp)

namespace Terminal

open Screen

theorem onScreen_ok {α : Type} {step : Screen.Step α} {t : Terminal} {a : α} {s : Screen}
    (h : step t.screen = .ok a s) : onScreen step t = .ok a { t with screen := s } := by
  simp only [onScreen, h]

theorem lift_bind_error {α β : Type} {e : Except Fault α} {f : α → M β} {err : Fault}
    (h : e = .error err) (t : Terminal) : (lift e >>= f) t = .error err t := by
  subst h
  rfl

theorem lift_bind_ok {α β : Type} {e : Except Fault α} {f : α → M β} {a : α}
    (h : e = .ok a) (t : Terminal) : (lift e >>= f) t = f a t := by
  subst h
  rfl

theorem controlSequence_str (p : Text) (f : Point) :
    controlSequence (.str (p ++ [f])) = control (.str p) (.str [f]) := by
  funext t
  show (lift (Value.str (p ++ [f])).splitLast >>= fun q => control q.2 q.1) t = _
  rw [lift_bind_ok (a := (.str [f], .str p))]
  simp only [Value.splitLast, List.getLast?_concat, List.dropLast_concat]

/-- Writing the spelling of an admitted control sequence carries out its function. -/
theorem write_spelling_control (i : Introducer) {ps is : Text} {f : Point}
    (h : (Token.control i ps is f).Admitted) :
    write (Token.spelling (.control i ps is f)) = control (.str (ps ++ is)) (.str [f]) := by
  funext t
  rw [write, Token.scan_spelling_control i h]
  show (do controlSequence (.str (ps ++ is ++ [f])); pure ()) t = _
  rw [bind_pure, controlSequence_str]

theorem write_csi {p : Text} (hp : ∀ q ∈ p, Token.isParam q = true) {f : Char}
    (hf : Token.isFinal (.char f) = true) :
    write (Text.ofString "\x1b[" ++ p ++ [.char f]) = control (.str p) (.str [.char f]) := by
  have hspell : Token.spelling (.control .sevenBit p [] (.char f)) =
      Text.ofString "\x1b[" ++ p ++ [.char f] := by
    simp [Token.spelling, Introducer.spelling, Text.ofString]
  have hadm : (Token.control .sevenBit p [] (.char f)).Admitted :=
    ⟨hp, fun _ hq => absurd hq List.not_mem_nil, hf⟩
  rw [← hspell, write_spelling_control .sevenBit hadm, List.append_nil]

theorem column_eq {x : Int} {t : Terminal} (hx : t.screen.x = .int x) :
    column t = .ok (.int x) t := by
  show EStateM.Result.ok t.screen.x t = _
  rw [hx]

theorem negatedColumn_eq {x : Int} {t : Terminal} (hx : t.screen.x = .int x) :
    negatedColumn t = .ok (.int (-x)) t := by
  rw [negatedColumn, bind_ok_of (column_eq hx)]
  rfl

/-- The step of a count motion `A` to `G` from column `x` with count `n`. -/
def motionStep (f : Char) (x n : Int) : Int × Int :=
  match f with
  | 'A' => (0, -n)
  | 'B' => (0, n)
  | 'C' => (n, 0)
  | 'D' => (-n, 0)
  | 'E' => (-x, n)
  | 'F' => (-x, -n)
  | _ => (n - x, 0)

namespace OnAxis

variable {f : Char} {x dx dy : Int}

end OnAxis

theorem control_graphic (p : Value) : control p (.str [.char 'm']) = graphic p := by
  rw [control, if_pos (by decide)]

theorem control_erase {f : Char} (hf : f = 'J' ∨ f = 'K') (p : Value) :
    control p (.str [.char f]) = onScreen (Screen.erase (.str [.char f]) p) := by
  rcases hf with rfl | rfl <;> simp +decide only [control, ↓reduceIte]

/-- The count motions `A` to `G` read one count and move by `motionStep`. -/
theorem control_count {f : Char} (hf : f ∈ ['A', 'B', 'C', 'D', 'E', 'F', 'G']) (p : Text)
    {t : Terminal} {x : Int} (hx : t.screen.x = .int x) :
    control (.str p) (.str [.char f]) t =
      (lift (motionCount (.str p)) >>= fun n =>
        moveBy (.int (motionStep f x n).1) (.int (motionStep f x n).2)) t := by
  simp only [List.mem_cons, List.not_mem_nil, or_false] at hf
  -- one `simp` finds the branch of the dispatch that each final character takes
  rcases hf with rfl | rfl | rfl | rfl | rfl | rfl | rfl <;>
    simp +decide only [control, ↓reduceIte]
  · rfl
  · rfl
  · rfl
  · rfl
  · -- `E` and `F` read the negated column first, which is an integer
    rw [bind_ok_of (negatedColumn_eq hx)]
    rfl
  · rw [bind_ok_of (negatedColumn_eq hx)]
    rfl
  · -- `G` reads the column after the count, so the two orders agree only once it is known
    cases hm : motionCount (.str p) with
    | error e => rw [lift_bind_error rfl t, lift_bind_error rfl t]
    | ok n =>
      rw [lift_bind_ok rfl t, lift_bind_ok rfl t, bind_ok_of (column_eq hx)]
      exact lift_bind_ok (Value.sub_int n x) t

/-- `H` and `f` move by the first two fields less one each, a missing number counting as 1. -/
theorem control_position {f : Char} (hf : f = 'H' ∨ f = 'f') (p : Text) :
    control (.str p) (.str [.char f]) =
      (lift ((positionFields p).mapM fieldValue) >>= fun values =>
        moveBy (.int (values.getD 0 1 - 1)) (.int (values.getD 1 1 - 1))) := by
  rcases hf with rfl | rfl <;>
    simp +decide only [control, ↓reduceIte, pure_bind] <;>
    · congr 1
      funext values
      match values with
      | [] => rfl
      | [a] => rfl
      | a :: b :: _ => rfl

theorem moveBy_up {W H : Nat} {t : Terminal} (hs : t.screen.Shaped W H) {x y : Int}
    (hx : t.screen.x = .int x) (hy : t.screen.y = .int y) (hx0 : 0 ≤ x) (hxW : x < W)
    (hH : 0 < H) (hyH : y < H) {dy : Int} (hdy : dy ≤ 0) :
    moveBy (.int 0) (.int dy) t = .ok () { t with screen := { t.screen with y := .int (y + dy) } } := by
  have hne : 0 < t.screen.rows.length := by rw [hs.rows]; exact hH
  rw [moveBy, onScreen_ok (move_int t.screen hx hy hs.width hs.height hne 0 dy)]
  have hcol : columnAfter W (x + 0) = x := by rw [Int.add_zero]; exact columnAfter_of_lt hx0 hxW
  have hrow : rowAimed W (x + 0) (y + dy) = y + dy := rowAimed_of_lt _ (by omega)
  have hk : (y + dy - H + 1).toNat = 0 := by omega
  have hy' : y + dy - ((0 : Nat) : Int) = y + dy := by omega
  rw [hcol, hrow, hk, hy', ← hx]
  simp only [scrolledRows, List.drop_zero, Nat.zero_min, List.replicate_zero, List.append_nil]

/-- An `A` sequence moves the cursor up by its count with no lower bound, keeping the grid. -/
theorem cursor_up_by_count {W H : Nat} {t : Terminal} (hs : t.screen.Shaped W H) {x y : Int}
    (hx : t.screen.x = .int x) (hy : t.screen.y = .int y) (hx0 : 0 ≤ x) (hxW : x < W)
    (hy0 : 0 ≤ y) (hyH : y < H) (i : Introducer) {ps is : Text}
    (hps : ∀ p ∈ ps, Token.isParam p = true) (his : ∀ p ∈ is, Token.isIntermediate p = true)
    {n : Int} (hn : motionCount (.str (ps ++ is)) = .ok n) :
    write (Token.spelling (.control i ps is (.char 'A'))) t =
      .ok () { t with screen := { t.screen with y := .int (y - n) } } := by
  rw [write_spelling_control i ⟨hps, his, rfl⟩, control_count (by simp) _ hx, lift_bind_ok hn t]
  have hn0 := motionCount_nonneg hps his hn
  show moveBy (.int 0) (.int (-n)) t = _
  rw [Int.sub_eq_add_neg]
  exact moveBy_up hs hx hy hx0 hxW (by omega) hyH (by omega)

example :
    (finalState (write (Token.spelling (.control .sevenBit [] [] (.char 'A')))
      (ofScreen (Screen.blank (.int 10) (.int 3) 10)))).screen.y.asInt? = some (-1) := by
  decide +kernel

end Terminal

end TermSnap
