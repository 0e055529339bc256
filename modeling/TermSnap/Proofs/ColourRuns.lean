import TermSnap.Render
/-!
# Colour runs in a rendering

A rendering names a cell's colour only where it differs from the colour of the cell before it, in
row-major order, the default standing before the first cell. For default, integer and triple
colours nothing is lost, and each change is named once (`marks_encode_colour_runs`).
-/

namespace TermSnap

/-- A colour as a rendering tells colours apart: the default, a palette entry, or a triple. -/
inductive Shade where
  | default
  | palette (n : Int)
  | rgb (r g b : Int)
deriving DecidableEq, Repr

namespace Value

/-- The shade of the default, an integer (no truth value) or a triple of integers. -/
def shade? : Value → Option Shade
  | null => some .default
  | int n => some (.palette n)
  | tuple [int r, int g, int b] => some (.rgb r g b)
  | _ => none

theorem order_int_eq_iff (a b : Int) : Num.order (.int a) (.int b) = some .eq ↔ a = b := by
  simp only [Num.order, Option.some.injEq]
  by_cases h : a < b
  · simp only [h, if_true, reduceCtorEq, false_iff]
    omega
  · by_cases h' : b < a
    · simp only [h, h', if_true, if_false, reduceCtorEq, false_iff]
      omega
    · simp only [h, h', if_false, true_iff]
      omega

theorem cases_of_shade {v : Value} (h : v.shade?.isSome) :
    v = null ∨ (∃ n, v = int n) ∨ ∃ r g b, v = tuple [int r, int g, int b] := by
  unfold shade? at h
  split at h
  · exact .inl rfl
  · exact .inr (.inl ⟨_, rfl⟩)
  · exact .inr (.inr ⟨_, _, _, rfl⟩)
  · cases h

theorem eq_iff_of_shade {a b : Value} (ha : a.shade?.isSome) (hb : b.shade?.isSome) :
    a.eq b = true ↔ a = b := by
  rcases cases_of_shade ha with rfl | ⟨n, rfl⟩ | ⟨r, g, b', rfl⟩ <;>
    rcases cases_of_shade hb with rfl | ⟨m, rfl⟩ | ⟨r', g', b'', rfl⟩
  all_goals simp [eq, eqItems, bothNaN, num?, order_int_eq_iff]

theorem shade?_inj {a b : Value} (ha : a.shade?.isSome) (hb : b.shade?.isSome) :
    a.shade? = b.shade? ↔ a = b := by
  refine ⟨fun h => ?_, fun h => h ▸ rfl⟩
  rcases cases_of_shade ha with rfl | ⟨n, rfl⟩ | ⟨r, g, b', rfl⟩ <;>
    rcases cases_of_shade hb with rfl | ⟨m, rfl⟩ | ⟨r', g', b'', rfl⟩
  all_goals simp_all [shade?]

end Value

namespace Mark

def isColour : Mark → Bool
  | colour _ => true
  | _ => false

/-- Reads marks back into rows as a reader that keeps the last colour it was given: a glyph is a
cell in that colour, and a line end ends the row. -/
def decode (cur : Value) (row : List Cell) : List Mark → List (List Cell)
  | [] => []
  | colour c :: ms => decode c row ms
  | glyph g :: ms => decode cur (row ++ [⟨g, cur⟩]) ms
  | newline :: ms => row :: decode cur [] ms

end Mark

/-- How many times a sequence changes from one item to the next, `k` standing before the first. -/
def changesFrom {α : Type} [DecidableEq α] (k : α) (ks : List α) : Nat :=
  ((k :: ks).zip ks).countP fun p => p.1 ≠ p.2

section Changes

variable {α : Type} [DecidableEq α]

@[simp] theorem changesFrom_nil (k : α) : changesFrom k [] = 0 := rfl

theorem changesFrom_cons (k k' : α) (ks : List α) :
    changesFrom k (k' :: ks) = (if k = k' then 0 else 1) + changesFrom k' ks := by
  simp only [changesFrom, List.zip_cons_cons, List.countP_cons]
  by_cases h : k = k' <;> simp [h] <;> omega

theorem changesFrom_append (k : α) (ks ls : List α) :
    changesFrom k (ks ++ ls) = changesFrom k ks + changesFrom (ks.getLastD k) ls := by
  induction ks generalizing k with
  | nil => simp
  | cons k' ks ih => rw [List.cons_append, changesFrom_cons, changesFrom_cons, ih,
      List.getLastD_cons, Nat.add_assoc]

end Changes

theorem rowMarks_snd (prev : Value) (row : List Cell) :
    (rowMarks prev row).2 = (row.map (·.colour)).getLastD prev := by
  induction row generalizing prev with
  | nil => rfl
  | cons c rest ih =>
    rcases hr : rowMarks c.colour rest with ⟨ms, last⟩
    have hlast : last = (rest.map (·.colour)).getLastD c.colour := by rw [← ih, hr]
    simp only [rowMarks, hr, List.map_cons, List.getLastD_cons, hlast]

theorem shade?_rowMarks_snd {prev : Value} {row : List Cell} (hprev : prev.shade?.isSome)
    (hrow : ∀ c ∈ row, c.colour.shade?.isSome) : (rowMarks prev row).2.shade?.isSome := by
  rw [rowMarks_snd]
  rcases List.mem_cons.mp (List.getLastD_mem_cons (l := row.map (·.colour)) (a := prev)) with
    h | h
  · rw [h]; exact hprev
  · obtain ⟨c, hc, hc'⟩ := List.mem_map.mp h
    rw [← hc']; exact hrow c hc

section Decoding

variable {prev : Value} {row : List Cell}

theorem decode_rowMarks (hprev : prev.shade?.isSome)
    (hrow : ∀ c ∈ row, c.colour.shade?.isSome) (acc : List Cell) (ms : List Mark) :
    Mark.decode prev acc ((rowMarks prev row).1 ++ ms) =
      Mark.decode (rowMarks prev row).2 (acc ++ row) ms := by
  induction row generalizing prev acc with
  | nil => simp [rowMarks]
  | cons c rest ih =>
    have hc := hrow c List.mem_cons_self
    have hrest := ih hc fun c' hc' => hrow c' (List.mem_cons_of_mem _ hc')
    rcases hr : rowMarks c.colour rest with ⟨ms', last⟩
    rw [hr] at hrest
    simp only [rowMarks, hr]
    -- where the colour is the one in force no change is named, and the reader's colour is the
    -- cell's all the same
    by_cases he : c.colour.eq prev = true
    · have hcp : c.colour = prev := (Value.eq_iff_of_shade hc hprev).mp he
      subst hcp
      simp only [he, if_true, List.nil_append, List.cons_append, Mark.decode]
      rw [hrest (acc ++ [c]), List.append_assoc, List.singleton_append]
    · simp only [he, Bool.false_eq_true, if_false, List.cons_append, List.nil_append,
        Mark.decode]
      rw [hrest (acc ++ [c]), List.append_assoc, List.singleton_append]

/-- The marks of rows, read from the colour in force before them, give the rows back. -/
theorem decode_rowsMarks (rows : List (List Cell)) (hprev : prev.shade?.isSome)
    (hrows : ∀ row ∈ rows, ∀ c ∈ row, c.colour.shade?.isSome) :
    Mark.decode prev [] (rowsMarks prev rows) = rows := by
  induction rows generalizing prev with
  | nil => rfl
  | cons row rest ih =>
    have hrow := hrows row List.mem_cons_self
    -- the reader goes into the next row at the colour the last cell left it
    have hlast := shade?_rowMarks_snd hprev hrow
    rcases hr : rowMarks prev row with ⟨ms, last⟩
    have hread := decode_rowMarks hprev hrow [] (Mark.newline :: rowsMarks last rest)
    rw [hr] at hread hlast
    simp only [rowsMarks, hr, hread, List.nil_append, Mark.decode,
      ih hlast fun r hr' => hrows r (List.mem_cons_of_mem _ hr')]

end Decoding

section Counting

variable {prev : Value} {row : List Cell}

theorem Value.eq_iff_shade {a b : Value} (ha : a.shade?.isSome) (hb : b.shade?.isSome) :
    a.eq b = true ↔ b.shade? = a.shade? := by
  rw [Value.eq_iff_of_shade ha hb, Value.shade?_inj hb ha, eq_comm]

theorem countP_rowMarks (hprev : prev.shade?.isSome) (hrow : ∀ c ∈ row, c.colour.shade?.isSome) :
    (rowMarks prev row).1.countP Mark.isColour =
      changesFrom prev.shade? (row.map (·.colour.shade?)) := by
  induction row generalizing prev with
  | nil => rfl
  | cons c rest ih =>
    have hc := hrow c List.mem_cons_self
    have hrest := ih hc fun c' hc' => hrow c' (List.mem_cons_of_mem _ hc')
    rcases hr : rowMarks c.colour rest with ⟨ms', last⟩
    rw [hr] at hrest
    simp only [rowMarks, hr, List.map_cons, changesFrom_cons, ← hrest]
    by_cases he : c.colour.eq prev = true
    · have hk : prev.shade? = c.colour.shade? := (Value.eq_iff_shade hc hprev).mp he
      simp [he, hk, Mark.isColour]
    · have hk : prev.shade? ≠ c.colour.shade? := fun h => he ((Value.eq_iff_shade hc hprev).mpr h)
      simp [he, hk, List.countP_cons, Mark.isColour]
      omega

/-- Rows name as many colours as the row-major sequence of their shades changes. -/
theorem countP_rowsMarks (rows : List (List Cell)) (hprev : prev.shade?.isSome)
    (hrows : ∀ row ∈ rows, ∀ c ∈ row, c.colour.shade?.isSome) :
    (rowsMarks prev rows).countP Mark.isColour =
      changesFrom prev.shade? (rows.flatten.map (·.colour.shade?)) := by
  induction rows generalizing prev with
  | nil => rfl
  | cons row rest ih =>
    have hrow := hrows row List.mem_cons_self
    have hlast := shade?_rowMarks_snd hprev hrow
    have hcount := countP_rowMarks hprev hrow
    -- the count goes on into the next row from the shade of the row's last cell
    have hk : (row.map (·.colour.shade?)).getLastD prev.shade? = (rowMarks prev row).2.shade? := by
      rw [rowMarks_snd, ← List.getLastD_map (f := Value.shade?), List.map_map]
      rfl
    rcases hr : rowMarks prev row with ⟨ms, last⟩
    rw [hr] at hlast hcount hk
    simp only [rowsMarks, hr, List.countP_append, List.countP_cons, Mark.isColour,
      List.flatten_cons, List.map_append, changesFrom_append, hcount, hk,
      ih hlast fun r hr' => hrows r (List.mem_cons_of_mem _ hr')]
    simp

end Counting

/-- A rendering loses no colour and names no colour twice: the marks read back into the screen's
rows, and they name as many colours as the row-major sequence of colours changes. -/
theorem marks_encode_colour_runs (s : Screen)
    (hs : ∀ row ∈ s.rows, ∀ c ∈ row, c.colour.shade?.isSome) :
    Mark.decode .null [] s.marks = s.rows ∧
      s.marks.countP Mark.isColour =
        changesFrom (some .default) (s.rows.flatten.map (·.colour.shade?)) :=
  ⟨decode_rowsMarks s.rows rfl hs, countP_rowsMarks s.rows rfl hs⟩

/-- A second row that starts in the colour the first row ended in: no colour is named for it. -/
theorem marks_encode_colour_runs_across_rows :
    let s : Screen :=
      { width := .int 2, height := .int 2,
        rows := [[⟨.text "a", .int 1⟩, ⟨.text "b", .int 1⟩], [⟨.text "c", .int 1⟩, ⟨.text "d", .null⟩]],
        x := .int 0, y := .int 0, pen := .null }
    (∀ row ∈ s.rows, ∀ c ∈ row, c.colour.shade?.isSome) ∧
      Mark.decode .null [] s.marks = s.rows ∧
        s.marks.countP Mark.isColour =
          changesFrom (some .default) (s.rows.flatten.map (·.colour.shade?)) :=
  ⟨by decide, marks_encode_colour_runs _ (by decide)⟩

end TermSnap
