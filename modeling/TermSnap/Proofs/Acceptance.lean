import TermSnap.Proofs.WellFormed
/-!
# Which writes fail

On a well-formed screen a token fails exactly when one of its numbers cannot be read, or when it
sets a cell on the cursor's row while that row is more than `H` rows above the top, where cursor
motions can take it (`write_fails_iff_rejected`). Screens have fewer than `2 ^ 63` rows and
columns, as machine indices require.
-/

namespace TermSnap

/-- Whether an operation fails from a state. -/
def Fails {ε σ α : Type} (m : EStateM ε σ α) (s : σ) : Prop := ∃ e s', m s = .error e s'

theorem not_fails_of_ok {ε σ α : Type} {m : EStateM ε σ α} {s s' : σ} {a : α}
    (h : m s = .ok a s') : ¬ Fails m s := by
  rintro ⟨e, s'', h'⟩
  rw [h] at h'
  cases h'

theorem fails_of_error {ε σ α : Type} {m : EStateM ε σ α} {s s' : σ} {e : ε}
    (h : m s = .error e s') : Fails m s := ⟨e, s', h⟩

theorem fails_bind_iff {ε σ α β : Type} {m : EStateM ε σ α} {f : α → EStateM ε σ β} {s : σ} :
    Fails (m >>= f) s ↔ Fails m s ∨ ∃ a s₁, m s = .ok a s₁ ∧ Fails (f a) s₁ := by
  cases h : m s with
  | ok a s₁ =>
    rw [Fails, Fails, bind_ok_of h, h]
    constructor
    · intro hf
      exact .inr ⟨a, s₁, rfl, hf⟩
    · rintro (⟨e, s', he⟩ | ⟨a', s₁', heq, hf⟩)
      · cases he
      · cases heq
        exact hf
  | error e s₁ =>
    rw [Fails, bind_error_of h]
    exact ⟨fun _ => .inl ⟨e, s₁, h⟩, fun _ => ⟨e, s₁, rfl⟩⟩

/-- An operation that returns from every state. -/
def Returns {ε σ α : Type} (m : EStateM ε σ α) : Prop := ∀ s, ∃ a s', m s = .ok a s'

theorem Returns.pure {ε σ α : Type} (a : α) : Returns (Pure.pure a : EStateM ε σ α) :=
  fun s => ⟨a, s, rfl⟩

theorem Returns.bind {ε σ α β : Type} {m : EStateM ε σ α} {f : α → EStateM ε σ β}
    (hm : Returns m) (hf : ∀ a, Returns (f a)) : Returns (m >>= f) := by
  intro s
  obtain ⟨a, s₁, h₁⟩ := hm s
  obtain ⟨b, s₂, h₂⟩ := hf a s₁
  exact ⟨b, s₂, by rw [bind_ok_of h₁, h₂]⟩

theorem Returns.not_fails {ε σ α : Type} {m : EStateM ε σ α} (h : Returns m) (s : σ) :
    ¬ Fails m s := by
  obtain ⟨a, s', h'⟩ := h s
  exact not_fails_of_ok h'

theorem fails_iff_of_cases {ε σ α : Type} {m : EStateM ε σ α} {s : σ} {P : Prop}
    (herr : P → ∃ e s', m s = .error e s') (hok : ¬ P → ∃ a s', m s = .ok a s') :
    Fails m s ↔ P := by
  by_cases hP : P
  · exact ⟨fun _ => hP, fun _ => herr hP⟩
  · obtain ⟨a, s', h⟩ := hok hP
    exact iff_of_false (not_fails_of_ok h) hP

theorem Value.indexFloor_eq : Value.indexFloor = -9223372036854775808 := rfl

theorem Value.index?_of_bounds {i : Int} (h0 : -9223372036854775808 ≤ i)
    (h1 : i < 9223372036854775808) : (Value.int i).index? = .ok i :=
  Value.index?_int (by rw [Value.indexFloor_eq]; omega)

/-! ### Reading numbers -/

theorem Except.isOk_eq_false_iff {ε α : Type} {e : Except ε α} :
    e.isOk = false ↔ ∃ err, e = .error err := by
  cases e with
  | error err => exact ⟨fun _ => ⟨err, rfl⟩, fun _ => rfl⟩
  | ok a => exact ⟨fun h => (by cases h), fun ⟨_, h⟩ => (by cases h)⟩

theorem List.mapM_error_iff {ε α β : Type} {f : α → Except ε β} {xs : List α} :
    (∃ e, xs.mapM f = .error e) ↔ ∃ x ∈ xs, ∃ e, f x = .error e := by
  induction xs with
  | nil =>
    refine ⟨fun ⟨e, he⟩ => ?_, fun ⟨x, hx, _⟩ => absurd hx List.not_mem_nil⟩
    cases he
  | cons x xs ih =>
    rw [List.mapM_cons]
    cases hx : f x with
    | error e =>
      rw [Except.error_bind]
      exact ⟨fun _ => ⟨x, List.mem_cons_self, e, hx⟩, fun _ => ⟨e, rfl⟩⟩
    | ok b =>
      rw [Except.ok_bind]
      cases hxs : xs.mapM f with
      | error e =>
        rw [Except.error_bind]
        obtain ⟨y, hy, e', he'⟩ := ih.mp ⟨e, hxs⟩
        exact ⟨fun _ => ⟨y, List.mem_cons_of_mem _ hy, e', he'⟩, fun _ => ⟨e, rfl⟩⟩
      | ok ys =>
        rw [Except.ok_bind]
        refine ⟨fun ⟨e, he⟩ => (by cases he), ?_⟩
        rintro ⟨y, hy, e', he'⟩
        rcases List.mem_cons.mp hy with rfl | hy
        · rw [hx] at he'
          cases he'
        · obtain ⟨e, he⟩ := ih.mpr ⟨y, hy, e', he'⟩
          rw [hxs] at he
          cases he

namespace Token

/-- The functions of the cursor motions that read one count. -/
def countFinals : List Point := ['A', 'B', 'C', 'D', 'E', 'F', 'G'].map .char

/-- Whether a text is no count: it is not empty, and it is no integer numeral. -/
def unreadable (q : Text) : Bool := !q.isEmpty && !(readCount q).isOk

/-- Whether a control sequence with parameters `p` and function `f` has a number that cannot be
read: the count of `A` to `G`, a field of `H` or `f`, or a code of `m`. -/
def unreadableNumber (p : Text) (f : Point) : Bool :=
  if f ∈ countFinals then unreadable p
  else if f = .char 'H' ∨ f = .char 'f' then (positionFields p).any unreadable
  else if f = .char 'm' then
    !(p == Text.ofString "0" || p == []) && (digitRuns p).any fun q => !(readCount q).isOk
  else false

/-- Whether carrying out a token sets cells on the cursor's row, the cursor in column `x`. -/
def setsCursorRow (x : Int) : Token → Bool
  | text run => !run.isEmpty
  | backspace => true
  | control _ ps is f =>
    (f == .char 'J' || f == .char 'K') && (ps ++ is != Text.ofString "1" || decide (0 < x))
  | _ => false

/-- Whether a token fails on a well-formed screen of `H` rows with the cursor at `(x, y)`: a number
that cannot be read, or cells set on a row more than `H` rows above the top. -/
def rejectedAt (H : Nat) (x y : Int) (tok : Token) : Bool :=
  (match tok with
    | control _ ps is f => unreadableNumber (ps ++ is) f
    | _ => false) ||
  (tok.setsCursorRow x && decide (y < -(H : Int)))

example : (control .sevenBit [.char '?', .char '5'] [] (.char 'A')).rejectedAt 3 0 0 = true := by
  decide

example : (text [.char 'a']).rejectedAt 3 0 (-4) = true ∧
    (text [.char 'a']).rejectedAt 3 0 (-3) = false := by
  decide

end Token

theorem motionCount_error_iff (p : Text) :
    (∃ e, motionCount (.str p) = .error e) ↔ Token.unreadable p = true := by
  cases p with
  | nil => exact ⟨fun ⟨e, he⟩ => (by cases he), fun h => (by cases h)⟩
  | cons c cs =>
    have hne : (Value.str (c :: cs)).isText "" = false := by simp [Value.isText, Text.ofString]
    rw [motionCount, if_neg (by rw [hne]; decide)]
    simp only [Token.unreadable, List.isEmpty_cons, Bool.not_false, Bool.true_and,
      Bool.not_eq_true', Except.isOk_eq_false_iff]

theorem fieldValue_error_iff (q : Text) :
    (∃ e, fieldValue q = .error e) ↔ Token.unreadable q = true := by
  cases q with
  | nil => exact ⟨fun ⟨e, he⟩ => (by cases he), fun h => (by cases h)⟩
  | cons c cs =>
    rw [fieldValue, if_neg (by simp)]
    simp only [Token.unreadable, List.isEmpty_cons, Bool.not_false, Bool.true_and,
      Bool.not_eq_true', Except.isOk_eq_false_iff]

namespace Screen

/-! ### Reaching a cell -/

theorem slot?_isSome {i : Int} {n : Nat} (h0 : -(n : Int) ≤ i) (h1 : i < n) :
    ∃ k, slot? i n = some k := by
  unfold slot?
  by_cases hi : 0 ≤ i
  · rw [if_pos hi, if_pos h1]
    exact ⟨_, rfl⟩
  · rw [if_neg hi, if_pos (by omega)]
    exact ⟨_, rfl⟩

theorem slot?_eq_none {i : Int} {n : Nat} (h : i < -(n : Int)) : slot? i n = none := by
  unfold slot?
  rw [if_neg (by omega), if_neg (by omega)]

/-- An item of a list at an index from `-n` to `n - 1`, `n` its length, can be read. -/
theorem pick_ok {α : Type} (xs : List α) (i : Int) (h0 : -(xs.length : Int) ≤ i)
    (h1 : i < xs.length) (hn : xs.length < 9223372036854775808) :
    ∃ k, ∃ hk : k < xs.length, (Value.int i).pick xs = .ok xs[k] := by
  obtain ⟨k, hk⟩ := slot?_isSome h0 h1
  have hlt := slot?_lt hk
  refine ⟨k, hlt, ?_⟩
  unfold Value.pick
  rw [Value.index?_of_bounds (by omega) (by omega), Except.ok_bind]
  have hat : listAt? xs i = some xs[k] := by
    simp only [listAt?, hk, Option.bind_some, List.getElem?_eq_getElem hlt]
  rw [hat]
  rfl

theorem replace_ok {α : Type} (xs : List α) (i : Int) (a : α) (h0 : -(xs.length : Int) ≤ i)
    (h1 : i < xs.length) (hn : xs.length < 9223372036854775808) :
    ∃ ys, (Value.int i).replace xs a = .ok ys := by
  obtain ⟨k, hk⟩ := slot?_isSome h0 h1
  unfold Value.replace
  rw [Value.index?_of_bounds (by omega) (by omega), Except.ok_bind]
  have hset : listSet? xs i a = some (xs.set k a) := by
    simp only [listSet?, hk, Option.map_some]
  rw [hset]
  exact ⟨_, rfl⟩

theorem pick_error {α : Type} (xs : List α) {i : Int} (h : i < -(xs.length : Int)) :
    ∃ e, (Value.int i).pick xs = .error e := by
  unfold Value.pick
  cases hi : (Value.int i).index? with
  | error e => exact ⟨e, rfl⟩
  | ok j =>
    have hj : j = i := by
      unfold Value.index? at hi
      simp only [Value.asInt?] at hi
      split at hi
      · cases hi
        rfl
      · cases hi
    subst hj
    rw [Except.ok_bind, listAt?, slot?_eq_none h]
    exact ⟨_, rfl⟩

variable {W H : Nat} {s : Screen}

/-- A cell of a well-formed screen can be set on a row from `H` rows above the top to the bottom. -/
theorem setCell_ok (hs : s.WellFormed W H) (hW : W < Nat.pow 2 63) (hH : H < Nat.pow 2 63)
    {x y : Int} (hx0 : 0 ≤ x) (hxW : x < W) (hy0 : -(H : Int) ≤ y) (hyH : y < H) (c : Cell) :
    ∃ s', s.setCell (.int x) (.int y) c = .ok s' := by
  have hlen := hs.rows
  have h63 : Nat.pow 2 63 = 9223372036854775808 := rfl
  obtain ⟨k, hk, hrow⟩ := pick_ok s.rows y (by omega) (by omega) (by omega)
  have hcols := hs.cols s.rows[k] (List.getElem_mem hk)
  obtain ⟨row', hrow'⟩ := replace_ok s.rows[k] x c (by omega) (by omega) (by omega)
  obtain ⟨rows, hrows⟩ := replace_ok s.rows y row' (by omega) (by omega) (by omega)
  unfold setCell
  rw [hrow, Except.ok_bind, hrow', Except.ok_bind, hrows, Except.ok_bind]
  exact ⟨_, rfl⟩

theorem setCell_error (hs : s.WellFormed W H) {x y : Value} {y' : Int} (hy : y = .int y')
    (hlow : y' < -(H : Int)) (c : Cell) : ∃ e, s.setCell x y c = .error e := by
  subst hy
  obtain ⟨e, he⟩ := pick_error s.rows (by rw [hs.rows]; exact hlow)
  unfold setCell
  rw [he, Except.error_bind]
  exact ⟨e, rfl⟩

theorem put_ok (hs : s.WellFormed W H) (hW : W < Nat.pow 2 63) (hH : H < Nat.pow 2 63) {x y : Int}
    (hx0 : 0 ≤ x) (hxW : x < W) (hy0 : -(H : Int) ≤ y) (hyH : y < H) (g : Value) :
    ∃ rows : List (List Cell), rows.length = s.rows.length ∧
      put (.int x) (.int y) g s = .ok () { s with rows } := by
  obtain ⟨s', hs'⟩ := setCell_ok hs hW hH hx0 hxW hy0 hyH ⟨g, s.pen⟩
  obtain ⟨rows, rfl, hlen, -⟩ := setCell_eq_ok hs'
  refine ⟨rows, hlen, ?_⟩
  unfold put
  rw [hs']

theorem put_error (hs : s.WellFormed W H) {x y : Value} {y' : Int} (hy : y = .int y')
    (hlow : y' < -(H : Int)) (g : Value) : ∃ e, put x y g s = .error e s := by
  obtain ⟨e, he⟩ := setCell_error hs (x := x) hy hlow ⟨g, s.pen⟩
  unfold put
  rw [he]
  exact ⟨e, rfl⟩

theorem blankRun_ok (hW : W < Nat.pow 2 63) (hH : H < Nat.pow 2 63) {r : Int}
    (hr0 : -(H : Int) ≤ r) (hrH : r < H) {x1 : Int} (hx1 : x1 ≤ W) (x0 : Int) (hx0 : 0 ≤ x0)
    (s : Screen) (hs : s.WellFormed W H) :
    ∃ s', blankRun (.int r) x0 x1 s = .ok () s' ∧ s'.WellFormed W H := by
  induction x0 using blankRun.induct x1 generalizing s with
  | case1 x0 hlt ih =>
    obtain ⟨rows, -, hput⟩ := put_ok hs hW hH hx0 (by omega) hr0 hrH (.text " ")
    have hs₁ : ({ s with rows } : Screen).WellFormed W H := by
      have := keeps_put (.int x0) (.int r) (by decide : (Value.text " ").isGlyph = true) s hs
      rwa [hput] at this
    rw [blankRun, dif_pos hlt, bind_ok_of hput]
    exact ih (by omega) _ hs₁
  | case2 x0 hlt =>
    rw [blankRun, dif_neg hlt]
    exact ⟨s, rfl, hs⟩

theorem blankRun_error (hs : s.WellFormed W H) {r : Int} (hr : r < -(H : Int)) {x0 x1 : Int}
    (hlt : x0 < x1) : ∃ e, blankRun (.int r) x0 x1 s = .error e s := by
  obtain ⟨e, he⟩ := put_error hs (x := .int x0) rfl hr (.text " ")
  rw [blankRun, dif_pos hlt, bind_error_of he]
  exact ⟨e, rfl⟩

theorem blankRows_ok (hW : W < Nat.pow 2 63) (hH : H < Nat.pow 2 63)
    {y1 : Int} (hy1 : y1 ≤ H) (y0 : Int)
    (hy0 : y0 < y1 → -(H : Int) ≤ y0) (s : Screen) (hs : s.WellFormed W H) :
    ∃ s', blankRows y0 y1 s = .ok () s' ∧ s'.WellFormed W H := by
  induction y0, s using blankRows.induct y1 with
  | case1 y0 s hlt e he =>
    rw [hs.width] at he
    cases he
  | case2 y0 s hlt w hw hw0 =>
    simp only [blankRows, dif_pos hlt, hw, if_pos hw0]
    exact ⟨s, rfl, hs⟩
  | case3 y0 s hlt w hw hw0 ih =>
    have hwW : w = W := by
      rw [hs.width] at hw
      cases hw
      rfl
    subst hwW
    obtain ⟨s₁, hrun, hs₁⟩ :=
      blankRun_ok hW hH (hy0 hlt) (by omega) (Int.le_refl _) 0 (Int.le_refl 0) s hs
    simp only [blankRows, dif_pos hlt, hw, if_neg hw0]
    rw [bind_ok_of hrun]
    exact ih s₁ (fun _ => by have := hy0 hlt; omega) hs₁
  | case4 y0 s hlt =>
    rw [blankRows, dif_neg hlt]
    exact ⟨s, rfl, hs⟩

/-- Setting a cell fails exactly on a row more than `H` rows above the top. -/
theorem put_fails_iff (hs : s.WellFormed W H) (hW : W < Nat.pow 2 63) (hH : H < Nat.pow 2 63)
    {x y : Int} (hx0 : 0 ≤ x) (hxW : x < W) (hyH : y < H) (g : Value) :
    Fails (put (.int x) (.int y) g) s ↔ y < -(H : Int) := by
  refine fails_iff_of_cases (fun hyl => ?_) (fun hyl => ?_)
  · obtain ⟨e, he⟩ := put_error hs (x := .int x) rfl hyl g
    exact ⟨e, s, he⟩
  · obtain ⟨rows, -, hput⟩ := put_ok hs hW hH hx0 hxW (by omega) hyH g
    exact ⟨(), _, hput⟩

theorem erase_eq {y : Int} (hy : s.y = .int y) (function param : Value) {x0 x1 y0 y1 : Int}
    (hb : s.eraseBounds param = .ok (.int x0, .int x1, .int y0, .int y1)) :
    erase function param s = (blankRun (.int y) x0 x1 >>= fun _ =>
      if function.isText "K" then pure () else blankRows y0 y1) s := by
  unfold erase
  rw [bind_ok_of (rfl : (get : Step Screen) s = .ok s s),
    bind_ok_of (show lift (s.eraseBounds param) s = .ok (.int x0, .int x1, .int y0, .int y1) s by
      rw [hb]; rfl), hy]
  rfl

/-- The bounds of an erase on a well-formed screen: a run on the cursor's row, empty only for an
erase before the cursor in column 0, and rows that exist once the cursor's row does. -/
theorem eraseBounds_int (hs : s.WellFormed W H) {x y : Int} (hx : s.x = .int x)
    (hy : s.y = .int y) (p : Text) :
    ∃ x0 x1 y0 y1 : Int,
      s.eraseBounds (.str p) = .ok (.int x0, .int x1, .int y0, .int y1) ∧
      0 ≤ x0 ∧ x1 ≤ W ∧ (x0 < x1 ↔ (p ≠ Text.ofString "1" ∨ 0 < x)) ∧
      (y0 < y1 → -(H : Int) ≤ y → -(H : Int) ≤ y0) ∧ y1 ≤ H ∧
      (y < -(H : Int) → x1 ≤ x0 → y1 ≤ y0) := by
  obtain ⟨hx0, hxW⟩ := hs.column_bounds hx
  have hyH := hs.row_lt hy
  unfold eraseBounds
  by_cases h0 : (Value.str p).isText "0" = true ∨ (Value.str p).isText "" = true
  · have hp : p ≠ Text.ofString "1" := by
      rintro rfl
      simp [Value.isText, Text.ofString] at h0
    rw [if_pos (by simpa only [Bool.or_eq_true] using h0), hy, Value.add_int, Except.ok_bind,
      hx, hs.width, hs.height]
    exact ⟨x, W, y + 1, H, rfl, hx0, Int.le_refl _, by simp [hp, hxW], by omega,
      Int.le_refl _, by omega⟩
  · rw [if_neg (by simpa only [Bool.or_eq_true] using h0)]
    by_cases h1 : (Value.str p).isText "1" = true
    · have hp : p = Text.ofString "1" := by simpa [Value.isText] using h1
      rw [if_pos h1, hy, Value.sub_int, Except.ok_bind, hx]
      exact ⟨0, x, 0, y - 1, rfl, Int.le_refl 0, Int.le_of_lt hxW, by simp [hp], by omega,
        by omega, by omega⟩
    · have hp : p ≠ Text.ofString "1" := by
        rintro rfl
        simp [Value.isText] at h1
      rw [if_neg h1, hs.width, hs.height]
      exact ⟨0, W, 0, H, rfl, Int.le_refl 0, Int.le_refl _, by simp [hp]; omega, by omega,
        Int.le_refl _, by omega⟩

/-- An erase on a well-formed screen fails exactly when it blanks cells of the cursor's row and
that row is more than `H` rows above the top. -/
theorem erase_fails_iff (hs : s.WellFormed W H) (hW : W < Nat.pow 2 63) (hH : H < Nat.pow 2 63)
    {x y : Int} (hx : s.x = .int x) (hy : s.y = .int y) (function : Value) (p : Text) :
    Fails (erase function (.str p)) s ↔ (p ≠ Text.ofString "1" ∨ 0 < x) ∧ y < -(H : Int) := by
  obtain ⟨x0, x1, y0, y1, hb, hx0, hx1, hrun, hrows, hy1, hempty⟩ := eraseBounds_int hs hx hy p
  have hyH := hs.row_lt hy
  rw [Fails, erase_eq hy function _ hb, ← Fails, ← hrun]
  refine fails_iff_of_cases (fun ⟨hlt, hyl⟩ => ?_) (fun hno => ?_)
  · -- the run on a row that does not exist fails at its first cell
    obtain ⟨e, he⟩ := blankRun_error hs hyl hlt
    exact ⟨e, s, bind_error_of he⟩
  · -- the run is blanked, or is empty on a row that does not exist; the rows come after it
    obtain ⟨s₁, hrun1, hs₁, hrows1⟩ : ∃ s₁, blankRun (.int y) x0 x1 s = .ok () s₁ ∧
        s₁.WellFormed W H ∧ (y0 < y1 → -(H : Int) ≤ y0) := by
      by_cases hyl : y < -(H : Int)
      · have hlt : ¬ x0 < x1 := fun hlt => hno ⟨hlt, hyl⟩
        have hnone : ¬ y0 < y1 := by have := hempty hyl (Int.not_lt.mp hlt); omega
        exact ⟨s, by rw [blankRun, dif_neg hlt]; rfl, hs, fun h => absurd h hnone⟩
      · obtain ⟨s₁, hrun1, hs₁⟩ := blankRun_ok hW hH (by omega) hyH hx1 x0 hx0 s hs
        exact ⟨s₁, hrun1, hs₁, fun hlt => hrows hlt (by omega)⟩
    obtain ⟨s₂, hrest⟩ : ∃ s₂,
        (if function.isText "K" then pure () else blankRows y0 y1) s₁ = .ok () s₂ := by
      split
      · exact ⟨s₁, rfl⟩
      · obtain ⟨s₂, h, -⟩ := blankRows_ok hW hH hy1 y0 hrows1 s₁ hs₁
        exact ⟨s₂, h⟩
    exact ⟨(), s₂, by rw [bind_ok_of hrun1, hrest]⟩

end Screen

namespace Terminal

open Screen

variable {W H : Nat} {t : Terminal}

theorem onScreen_error {α : Type} {step : Screen.Step α} {e : Fault} {s : Screen}
    (h : step t.screen = .error e s) : onScreen step t = .error e { t with screen := s } := by
  simp only [onScreen, h]

theorem fails_onScreen_iff {α : Type} {step : Screen.Step α} :
    Fails (onScreen step) t ↔ Fails step t.screen := by
  cases h : step t.screen with
  | ok a s =>
    exact ⟨fun hf => absurd hf (not_fails_of_ok (onScreen_ok h)),
      fun hf => absurd hf (not_fails_of_ok h)⟩
  | error e s => exact ⟨fun _ => fails_of_error h, fun _ => fails_of_error (onScreen_error h)⟩

theorem fails_lift_bind_iff {α β : Type} {e : Except Fault α} {f : α → M β} :
    Fails (lift e >>= f) t ↔ (∃ err, e = .error err) ∨ ∃ a, e = .ok a ∧ Fails (f a) t := by
  cases e with
  | error err =>
    exact ⟨fun _ => .inl ⟨err, rfl⟩, fun _ => fails_of_error (lift_bind_error rfl t)⟩
  | ok a =>
    rw [Fails, lift_bind_ok rfl t, ← Fails]
    constructor
    · intro h
      exact .inr ⟨a, rfl, h⟩
    · rintro (⟨err, herr⟩ | ⟨a', ha', h⟩)
      · cases herr
      · cases ha'
        exact h

theorem moveBy_ok (hs : t.screen.WellFormed W H) (dx dy : Int) :
    ∃ t', moveBy (.int dx) (.int dy) t = .ok () t' ∧ t'.screen.WellFormed W H := by
  obtain ⟨x, hx, -⟩ := hs.column
  obtain ⟨y, hy, -⟩ := hs.row
  have hm := onScreen_ok (t := t)
    (move_int t.screen hx hy hs.width hs.height hs.rows_length_pos dx dy)
  refine ⟨_, hm, ?_⟩
  have := keeps_moveBy (W := W) (H := H) dx dy t hs
  rwa [moveBy, hm] at this

theorem not_fails_moveBy (hs : t.screen.WellFormed W H) (dx dy : Int) :
    ¬ Fails (moveBy (.int dx) (.int dy)) t := by
  obtain ⟨t', h, -⟩ := moveBy_ok hs dx dy
  exact not_fails_of_ok h

theorem printGlyph_ok (hs : t.screen.WellFormed W H) (hW : W < Nat.pow 2 63) (hH : H < Nat.pow 2 63)
    {y : Int} (hy : t.screen.y = .int y) (hy0 : -(H : Int) ≤ y) {g : Value}
    (hg : g.isGlyph = true) :
    ∃ t' y', printGlyph g t = .ok () t' ∧ t'.screen.WellFormed W H ∧ t'.screen.y = .int y' ∧
      y ≤ y' := by
  obtain ⟨x, hx, hx0, hxW⟩ := hs.column
  have hyH := hs.row_lt hy
  obtain ⟨rows, hlen, hput⟩ := put_ok hs hW hH hx0 hxW hy0 hyH g
  have hne : 0 < rows.length := by rw [hlen]; exact hs.rows_length_pos
  have hmove := move_int { t.screen with rows } hx hy hs.width hs.height hne 1 0
  obtain ⟨S, hstep, hSy⟩ : ∃ S : Screen,
      (put t.screen.x t.screen.y g >>= fun _ => Screen.move (.int 1) (.int 0)) t.screen =
        .ok () S ∧
      S.y = .int (rowAimed W (x + 1) (y + 0) - ((rowAimed W (x + 1) (y + 0) - H + 1).toNat : Int)) :=
    ⟨_, by rw [hx, hy, bind_ok_of hput, hmove], rfl⟩
  have hok : printGlyph g t = .ok () { t with screen := S } := onScreen_ok hstep
  refine ⟨_, _, hok, ?_, hSy, ?_⟩
  · have := keeps_printGlyph (W := W) (H := H) hg t hs
    rwa [hok] at this
  · unfold rowAimed
    split <;> omega

theorem printGlyph_error (hs : t.screen.WellFormed W H) {y : Int} (hy : t.screen.y = .int y)
    (hyl : y < -(H : Int)) (g : Value) : ∃ e, printGlyph g t = .error e t := by
  obtain ⟨e, he⟩ := put_error hs (x := t.screen.x) hy hyl g
  have hstep : (put t.screen.x t.screen.y g >>= fun _ => Screen.move (.int 1) (.int 0))
      t.screen = .error e t.screen := bind_error_of he
  unfold printGlyph
  exact ⟨e, onScreen_error hstep⟩

theorem printGlyphs_ok (hW : W < Nat.pow 2 63) (hH : H < Nat.pow 2 63) (gs : List Value)
    (hg : ∀ g ∈ gs, g.isGlyph = true) (t : Terminal) (hs : t.screen.WellFormed W H) {y : Int}
    (hy : t.screen.y = .int y) (hy0 : -(H : Int) ≤ y) : ∃ t', printGlyphs gs t = .ok () t' := by
  induction gs generalizing t y with
  | nil => exact ⟨t, rfl⟩
  | cons g gs ih =>
    -- the cursor only moves down, so every later glyph lands on a row that exists
    obtain ⟨t₁, y₁, h₁, hs₁, hy₁, hle⟩ := printGlyph_ok hs hW hH hy hy0 (hg g List.mem_cons_self)
    obtain ⟨t', h'⟩ := ih (fun g' hg' => hg g' (List.mem_cons_of_mem _ hg')) t₁ hs₁ hy₁
      (by omega)
    exact ⟨t', by rw [printGlyphs, bind_ok_of h₁, h']⟩

/-- Printing a run of glyphs fails exactly when the cursor's row is more than `H` rows above
the top. -/
theorem printGlyphs_fails_iff (hs : t.screen.WellFormed W H) (hW : W < Nat.pow 2 63)
    (hH : H < Nat.pow 2 63) {y : Int} (hy : t.screen.y = .int y) {gs : List Value} (hne : gs ≠ [])
    (hg : ∀ g ∈ gs, g.isGlyph = true) : Fails (printGlyphs gs) t ↔ y < -(H : Int) := by
  obtain ⟨g, gs', rfl⟩ := List.exists_cons_of_ne_nil hne
  refine fails_iff_of_cases (fun hyl => ?_) (fun hyl => ?_)
  · obtain ⟨e, he⟩ := printGlyph_error hs hy hyl g
    exact ⟨e, t, by rw [printGlyphs, bind_error_of he]⟩
  · obtain ⟨t', h⟩ := printGlyphs_ok hW hH _ hg t hs hy (by omega)
    exact ⟨(), t', h⟩

theorem returns_setPen (c : Value) : Returns (setPen c) := fun _ => ⟨(), _, rfl⟩

theorem returns_note (n : Notice) : Returns (note n) := fun _ => ⟨(), _, rfl⟩

theorem backspace_fails_iff (hs : t.screen.WellFormed W H) (hW : W < Nat.pow 2 63)
    (hH : H < Nat.pow 2 63)
    {y : Int} (hy : t.screen.y = .int y) : Fails backspace t ↔ y < -(H : Int) := by
  obtain ⟨x, hx, hx0, hxW⟩ := hs.column
  have hyH := hs.row_lt hy
  have hmove := move_int t.screen hx hy hs.width hs.height hs.rows_length_pos (-1) 0
  have hrow : rowAimed W (x + -1) (y + 0) - ((rowAimed W (x + -1) (y + 0) - H + 1).toNat : Int) =
      y := by
    unfold rowAimed
    split <;> omega
  have hs₁ := keeps_move (W := W) (H := H) (-1) 0 t.screen hs
  rw [hmove, finalState, hrow] at hs₁
  unfold backspace
  rw [fails_onScreen_iff, Fails, bind_ok_of hmove, ← Fails]
  show Fails (put (.int (columnAfter W (x + -1))) (.int _) (.text " ")) _ ↔ _
  rw [hrow]
  exact put_fails_iff hs₁ hW hH (columnAfter_nonneg _ _) (columnAfter_lt _ (by omega)) hyH _

theorem not_fails_home (hs : t.screen.WellFormed W H) (dy : Int) :
    ¬ Fails (onScreen (do let s ← get; Screen.move (← Screen.lift s.x.neg) (.int dy))) t := by
  obtain ⟨x, hx, -⟩ := hs.column
  obtain ⟨y, hy, -⟩ := hs.row
  rw [fails_onScreen_iff]
  show ¬ Fails (Screen.lift t.screen.x.neg >>= fun d => move d (.int dy)) t.screen
  rw [hx, Value.neg_int]
  exact not_fails_of_ok (move_int t.screen hx hy hs.width hs.height hs.rows_length_pos (-x) dy)

theorem returns_renditions (codes : List Int) : Returns (renditions codes) := by
  induction codes using renditions.induct with
  | case1 =>
    rw [renditions]
    exact Returns.pure ()
  | case2 n rest hn ih | case3 n rest _ hn ih =>
    rw [renditions.eq_def]
    simp only [hn]
    exact Returns.bind (returns_setPen _) fun _ => ih
  | case4 n rest hn ih =>
    rw [renditions.eq_def]
    simp only [hn]
    exact ih
  | case5 n rest _ hn ih =>
    rw [renditions.eq_def]
    simp only [hn]
    exact Returns.bind (returns_note _) fun _ => ih
  | case6 n hn r ih =>
    rw [renditions.eq_def]
    simp only [hn, if_pos]
    exact Returns.bind (returns_setPen _) fun _ => ih
  | case7 n hn m hm5 a b more ih =>
    rw [renditions.eq_def]
    simp only [hn, if_neg hm5]
    exact Returns.bind (returns_setPen _) fun _ => ih
  | case8 n hn m hm5 a ih | case9 n hn m hm5 ih =>
    rw [renditions.eq_def]
    simp only [hn, if_neg hm5]
    exact Returns.bind (returns_note _) fun _ => ih
  | case10 n hn ih =>
    rw [renditions.eq_def]
    simp only [hn]
    exact Returns.bind (returns_note _) fun _ => ih

/-- A graphic rendition fails exactly when a run of digits in its parameters cannot be read,
unless the parameters are `0` or empty. -/
theorem graphic_fails_iff (p : Text) :
    Fails (graphic (.str p)) t ↔
      (!(p == Text.ofString "0" || p == []) && (digitRuns p).any fun q => !(readCount q).isOk) =
        true := by
  unfold graphic
  by_cases h0 : ((Value.str p).isText "0" || (Value.str p).isText "") = true
  · rw [if_pos h0]
    have hp : (p == Text.ofString "0" || p == []) = true := h0
    rw [hp]
    exact ⟨fun hf => absurd hf ((returns_setPen _).not_fails t), fun h => (by simp at h)⟩
  · rw [if_neg h0]
    have hp : (p == Text.ofString "0" || p == []) = false := Bool.eq_false_iff.mpr h0
    show Fails (lift ((digitRuns p).mapM readCount) >>= fun codes => renditions codes) t ↔ _
    rw [fails_lift_bind_iff, List.mapM_error_iff, hp]
    simp only [Bool.not_false, Bool.true_and, List.any_eq_true, Bool.not_eq_true',
      Except.isOk_eq_false_iff]
    constructor
    · rintro (h | ⟨codes, -, hf⟩)
      · exact h
      · exact absurd hf ((returns_renditions codes).not_fails t)
    · exact .inl

theorem fails_count_move (hs : t.screen.WellFormed W H) (p : Text) (dx dy : Int → Int) :
    Fails (lift (motionCount (.str p)) >>= fun n => moveBy (.int (dx n)) (.int (dy n))) t ↔
      Token.unreadable p = true := by
  rw [fails_lift_bind_iff, motionCount_error_iff]
  constructor
  · rintro (h | ⟨n, -, hf⟩)
    · exact h
    · exact absurd hf (not_fails_moveBy hs _ _)
  · exact .inl

theorem fails_position_move (hs : t.screen.WellFormed W H) (p : Text) (dx dy : List Int → Int) :
    Fails (lift ((positionFields p).mapM fieldValue) >>= fun values =>
      moveBy (.int (dx values)) (.int (dy values))) t ↔
      (positionFields p).any Token.unreadable = true := by
  rw [fails_lift_bind_iff, List.mapM_error_iff]
  simp only [fieldValue_error_iff, List.any_eq_true]
  constructor
  · rintro (h | ⟨values, -, hf⟩)
    · exact h
    · exact absurd hf (not_fails_moveBy hs _ _)
  · exact .inl

/-- A control function fails exactly when it has a number that cannot be read, or it erases
cells on the cursor's row while that row is more than `H` rows above the top. -/
theorem control_fails_iff (hs : t.screen.WellFormed W H) (hW : W < Nat.pow 2 63)
    (hH : H < Nat.pow 2 63) {x y : Int} (hx : t.screen.x = .int x) (hy : t.screen.y = .int y) (p : Text) (f : Point) :
    Fails (control (.str p) (.str [f])) t ↔
      (Token.unreadableNumber p f || (f == .char 'J' || f == .char 'K') &&
        (p != Text.ofString "1" || decide (0 < x)) && decide (y < -(H : Int))) = true := by
  by_cases hAG : f ∈ Token.countFinals
  · -- `A` to `G`: a count, then one move
    obtain ⟨c, hc, rfl⟩ := List.mem_map.mp hAG
    rw [Fails, control_count hc p hx, ← Fails, fails_count_move hs p _ _]
    simp only [List.mem_cons, List.not_mem_nil, or_false] at hc
    rcases hc with rfl | rfl | rfl | rfl | rfl | rfl | rfl <;> simp +decide [Token.unreadableNumber]
  by_cases hk : f ∈ ['m', 'J', 'K', 'H', 'f'].map Point.char
  · obtain ⟨c, hc, rfl⟩ := List.mem_map.mp hk
    obtain rfl | hJK | hHf : c = 'm' ∨ (c = 'J' ∨ c = 'K') ∨ (c = 'H' ∨ c = 'f') := by
      simpa only [List.mem_cons, List.not_mem_nil, or_false, or_assoc] using hc
    · -- `m`: a graphic rendition
      rw [control_graphic, graphic_fails_iff]
      simp +decide [Token.unreadableNumber]
    · -- `J` and `K`: an erase of the screen or the line
      rw [control_erase hJK, fails_onScreen_iff, erase_fails_iff hs hW hH hx hy]
      rcases hJK with rfl | rfl <;> simp +decide [Token.unreadableNumber]
    · -- `H` and `f`: the fields of the parameters, then a move
      rw [control_position hHf p, fails_position_move hs p _ _]
      rcases hHf with rfl | rfl <;> simp +decide [Token.unreadableNumber]
  · -- any other function makes a notice
    simp only [List.map_cons, List.map_nil, List.mem_cons, List.not_mem_nil, or_false,
      not_or] at hk
    obtain ⟨hm, hJ, hK, hH, hf⟩ := hk
    have hAG' := hAG
    simp only [Token.countFinals, List.map_cons, List.map_nil, List.mem_cons, List.not_mem_nil,
      or_false, not_or] at hAG'
    obtain ⟨hA, hB, hC, hD, hE, hF, hG⟩ := hAG'
    have htext : ∀ c : Char, f ≠ .char c → (Value.str [f]).isText (String.singleton c) = false := by
      intro c hc
      simpa [Value.isText, Text.ofString] using hc
    rw [control, if_neg (by simpa using htext 'm' hm),
      if_neg (by
        simp only [Bool.or_eq_true, not_or]
        exact ⟨by simpa using htext 'J' hJ, by simpa using htext 'K' hK⟩),
      if_neg (by simpa using htext 'A' hA), if_neg (by simpa using htext 'B' hB),
      if_neg (by simpa using htext 'C' hC), if_neg (by simpa using htext 'D' hD),
      if_neg (by simpa using htext 'E' hE), if_neg (by simpa using htext 'F' hF),
      if_neg (by simpa using htext 'G' hG),
      if_neg (by
        simp only [Bool.or_eq_true, not_or]
        exact ⟨by simpa using htext 'H' hH, by simpa using htext 'f' hf⟩)]
    simp [Token.unreadableNumber, hAG, (returns_note _).not_fails t, hm, hJ, hK, hH, hf]

/-- Carrying out an admitted token on a well-formed screen fails exactly when the token is
rejected at the cursor. -/
theorem apply_fails_iff (hs : t.screen.WellFormed W H) (hW : W < Nat.pow 2 63)
    (hH : H < Nat.pow 2 63)
    {x y : Int} (hx : t.screen.x = .int x) (hy : t.screen.y = .int y) {tok : Token}
    (htok : tok.Admitted) : Fails (apply tok) t ↔ tok.rejectedAt H x y = true := by
  cases tok with
  | command => exact iff_of_false ((Returns.pure ()).not_fails t) Bool.false_ne_true
  | escape => exact iff_of_false ((Returns.pure ()).not_fails t) Bool.false_ne_true
  | stray => exact iff_of_false ((returns_note _).not_fails t) Bool.false_ne_true
  | carriageReturn => exact iff_of_false (not_fails_home hs 0) Bool.false_ne_true
  | lineFeed => exact iff_of_false (not_fails_home hs 1) Bool.false_ne_true
  | backspace =>
    rw [apply, backspace_fails_iff hs hW hH hy]
    simp [Token.rejectedAt, Token.setsCursorRow]
  | control i ps is f =>
    rw [apply, controlSequence_str, control_fails_iff hs hW hH hx hy]
    rfl
  | text run =>
    cases run with
    | nil => exact iff_of_false ((Returns.pure ()).not_fails t) Bool.false_ne_true
    | cons c cs =>
      have hg : ∀ g ∈ (c :: cs).map (fun c => Value.str [c]), g.isGlyph = true := by
        intro g hg
        obtain ⟨d, hd, rfl⟩ := List.mem_map.mp hg
        exact htok d hd
      rw [apply, printGlyphs_fails_iff hs hW hH hy (by simp) hg]
      simp [Token.rejectedAt, Token.setsCursorRow]

theorem bind_eq_ok_inv {ε σ α β : Type} {m : EStateM ε σ α} {f : α → EStateM ε σ β} {s s' : σ}
    {b : β} (h : (m >>= f) s = .ok b s') : ∃ a s₁, m s = .ok a s₁ ∧ f a s₁ = .ok b s' := by
  cases hm : m s with
  | ok a s₁ =>
    rw [bind_ok_of hm] at h
    exact ⟨a, s₁, rfl, h⟩
  | error e s₁ =>
    rw [bind_error_of hm] at h
    cases h

theorem applyAll_fails_iff (ts : List Token) (t : Terminal) :
    Fails (applyAll ts) t ↔ ∃ ts₁ tok ts₂ t₁, ts = ts₁ ++ tok :: ts₂ ∧
      applyAll ts₁ t = .ok () t₁ ∧ Fails (apply tok) t₁ := by
  induction ts generalizing t with
  | nil =>
    refine ⟨fun h => absurd h ((Returns.pure ()).not_fails t), ?_⟩
    rintro ⟨ts₁, tok, ts₂, t₁, heq, -⟩
    simp at heq
  | cons tok ts ih =>
    rw [applyAll, fails_bind_iff]
    constructor
    · rintro (h | ⟨_, t₁, h₁, hf⟩)
      · exact ⟨[], tok, ts, t, rfl, rfl, h⟩
      · obtain ⟨ts₁, tok', ts₂, t₂, rfl, h₂, hf'⟩ := (ih t₁).mp hf
        exact ⟨tok :: ts₁, tok', ts₂, t₂, rfl, by rw [applyAll, bind_ok_of h₁, h₂], hf'⟩
    · rintro ⟨ts₁, tok', ts₂, t₁, heq, h₁, hf⟩
      cases ts₁ with
      | nil =>
        simp only [List.nil_append, List.cons.injEq] at heq
        obtain ⟨rfl, rfl⟩ := heq
        cases h₁
        exact .inl hf
      | cons tok'' ts₁ =>
        simp only [List.cons_append, List.cons.injEq] at heq
        obtain ⟨rfl, rfl⟩ := heq
        obtain ⟨a, t₀, h₀, h₁'⟩ := bind_eq_ok_inv h₁
        exact .inr ⟨a, t₀, h₀, (ih t₀).mpr ⟨ts₁, tok', ts₂, t₁, rfl, h₁', hf⟩⟩

end Terminal

/-- After any texts written in turn to a screen `W` cells wide and `H` rows high, a write fails
exactly when one of its tokens is rejected at the cursor in its turn. -/
theorem write_fails_iff_rejected {W H : Nat} (hW0 : 0 < W) (hH0 : 0 < H) (hW : W < Nat.pow 2 63)
    (hH : H < Nat.pow 2 63) :
    ∃ s, Screen.make (.int W) (.int H) = .ok s ∧
      ∀ (outs : List Text) (d : Text),
        let t := outs.foldl (fun t d => finalState (Terminal.write d t)) (Terminal.ofScreen s)
        (∃ e t', Terminal.write d t = .error e t') ↔
          ∃ ts₁ tok ts₂ t₁ x y, Token.scan d = ts₁ ++ tok :: ts₂ ∧
            Terminal.applyAll ts₁ t = .ok () t₁ ∧ t₁.screen.x = .int x ∧ t₁.screen.y = .int y ∧
            tok.rejectedAt H x y = true := by
  refine ⟨_, Screen.make_int W hH0, fun outs d => ?_⟩
  intro t
  have ht : t.screen.WellFormed W H :=
    Terminal.keeps_writes (t := Terminal.ofScreen _) outs (Screen.wellFormed_blank hW0 hH0)
  -- every token of the text is admitted, so the tokens before any one keep the invariant
  have hadm : ∀ tok ∈ Token.scan d, tok.Admitted := Token.admitted_scan d
  have hbefore : ∀ ts₁ tok ts₂ t₁, Token.scan d = ts₁ ++ tok :: ts₂ →
      Terminal.applyAll ts₁ t = .ok () t₁ → t₁.screen.WellFormed W H ∧ tok.Admitted := by
    intro ts₁ tok ts₂ t₁ hd h₁
    have hk := Terminal.keeps_applyAll (Q := fun t : Terminal => t.screen.WellFormed W H) ts₁
      (fun tok' h' => Terminal.keeps_apply (hadm tok' (by rw [hd]; simp [h']))) t ht
    rw [h₁] at hk
    exact ⟨hk, hadm tok (by rw [hd]; simp)⟩
  show Fails (Terminal.write d) t ↔ _
  rw [Terminal.write, Terminal.applyAll_fails_iff]
  constructor
  · rintro ⟨ts₁, tok, ts₂, t₁, hd, h₁, hf⟩
    obtain ⟨hs₁, htok⟩ := hbefore ts₁ tok ts₂ t₁ hd h₁
    obtain ⟨x, hx, -⟩ := hs₁.column
    obtain ⟨y, hy, -⟩ := hs₁.row
    exact ⟨ts₁, tok, ts₂, t₁, x, y, hd, h₁, hx, hy,
      (Terminal.apply_fails_iff hs₁ hW hH hx hy htok).mp hf⟩
  · rintro ⟨ts₁, tok, ts₂, t₁, x, y, hd, h₁, hx, hy, hr⟩
    obtain ⟨hs₁, htok⟩ := hbefore ts₁ tok ts₂ t₁ hd h₁
    exact ⟨ts₁, tok, ts₂, t₁, hd, h₁, (Terminal.apply_fails_iff hs₁ hW hH hx hy htok).mpr hr⟩

/-- Texts written in turn to a screen ten cells wide and three rows high. -/
theorem write_fails_iff_rejected_ten_by_three :
    0 < 10 ∧ 0 < 3 ∧ 10 < Nat.pow 2 63 ∧ 3 < Nat.pow 2 63 ∧
    ∃ s, Screen.make (.int 10) (.int 3) = .ok s ∧
      ∀ (outs : List Text) (d : Text),
        let t := outs.foldl (fun t d => finalState (Terminal.write d t)) (Terminal.ofScreen s)
        (∃ e t', Terminal.write d t = .error e t') ↔
          ∃ ts₁ tok ts₂ t₁ x y, Token.scan d = ts₁ ++ tok :: ts₂ ∧
            Terminal.applyAll ts₁ t = .ok () t₁ ∧ t₁.screen.x = .int x ∧ t₁.screen.y = .int y ∧
            tok.rejectedAt 3 x y = true :=
  ⟨by decide, by decide, by decide, by decide,
    write_fails_iff_rejected (by decide) (by decide) (by decide) (by decide)⟩

end TermSnap
