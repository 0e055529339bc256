import TermSnap.Proofs.Motion
import TermSnap.Proofs.Numerals
import TermSnap.Render
/-!
# Colours read back

The terminal format spells a colour as `ESC [ 0 m`, `ESC [ 38;5;n m` or `ESC [ 38;2;r;g;b m`.
Writing it back sets the pen and nothing else of the screen, but `38;5` is read as palette entry 5
and `38;2;r;g;b` as the triple `(2, r, g)`, so only the default, entry 5 and `(2, 2, 2)` come back
as spelled (`colour_escapes_decode`).
-/

namespace TermSnap

/-- The colours the terminal format spells with numbers that read back: the default, a palette
entry and a triple, each number nonnegative of at most `Text.digitLimit` digits. -/
inductive Value.SpelledColour : Value → Prop
  | default : SpelledColour .null
  | palette (n : Nat) (hn : (toString n).length ≤ Text.digitLimit) : SpelledColour (.int n)
  | rgb (r g b : Nat) (hr : (toString r).length ≤ Text.digitLimit)
      (hg : (toString g).length ≤ Text.digitLimit)
      (hb : (toString b).length ≤ Text.digitLimit) :
      SpelledColour (.tuple [.int r, .int g, .int b])

def Value.colourCodes : Value → List Nat
  | .null => [0]
  | .int (.ofNat n) => [38, 5, n]
  | .tuple [.int (.ofNat r), .int (.ofNat g), .int (.ofNat b)] => [38, 2, r, g, b]
  | _ => []

/-- The parameters of one rendition sequence that sets the colours `vs` in turn. -/
def Value.colourParams (vs : List Value) : Text :=
  (Text.ofString ";").intercalate
    ((vs.flatMap Value.colourCodes).map fun n => Text.ofString (toString n))

def Rendition.colourAfter (n : Int) (c : Value) : Value :=
  match Rendition.ofCode n with
  | .reset => .null
  | .palette i => .int i
  | _ => c

/-- The colour the pen holds once the codes of colour `v` are read: palette entry `n` becomes
entry 5 then code `n`, and `(r, g, b)` becomes `(2, r, g)` then code `b`. -/
def Value.colourReadBack : Value → Value
  | .int n => Rendition.colourAfter n (.int 5)
  | .tuple [.int r, .int g, .int b] => Rendition.colourAfter b (.tuple [.int 2, .int r, .int g])
  | v => v

theorem Rendition.ofCode_eq_extended {n : Int} : Rendition.ofCode n = .extended ↔ n = 38 := by
  unfold Rendition.ofCode
  split_ifs <;> simp <;> omega

theorem Rendition.colourAfter_cases (n : Int) (c : Value) :
    colourAfter n c = .null ∨ (30 ≤ n ∧ n ≤ 37 ∧ colourAfter n c = .int (n - 30)) ∨
      colourAfter n c = c := by
  unfold colourAfter Rendition.ofCode
  split_ifs <;> simp_all

namespace Value

theorem SpelledColour.codes_short {v : Value} (hv : v.SpelledColour) :
    ∀ n ∈ v.colourCodes, (toString n).length ≤ Text.digitLimit := by
  cases hv with
  | default =>
    simp only [colourCodes, List.forall_mem_cons]
    exact ⟨by decide, nofun⟩
  | palette n hn =>
    simp only [colourCodes, List.forall_mem_cons]
    exact ⟨by decide, by decide, hn, nofun⟩
  | rgb r g b hr hg hb =>
    simp only [colourCodes, List.forall_mem_cons]
    exact ⟨by decide, by decide, hr, hg, hb, nofun⟩

theorem SpelledColour.codes_ne_nil {v : Value} (hv : v.SpelledColour) : v.colourCodes ≠ [] := by
  cases hv <;> simp [colourCodes]

/-- A spelled colour reads back as itself exactly for the default, entry 5 and `(2, 2, 2)`. -/
theorem SpelledColour.readBack_eq_iff {v : Value} (hv : v.SpelledColour) :
    v.colourReadBack = v ↔ v = .null ∨ v = .int 5 ∨ v = .tuple [.int 2, .int 2, .int 2] := by
  cases hv with
  | default => simp [colourReadBack]
  | palette n =>
    show Rendition.colourAfter n (.int 5) = .int n ↔ _
    constructor
    · -- a palette entry read back is a different entry, so only the unchanged 5 is itself
      intro h
      rcases Rendition.colourAfter_cases n (.int 5) with h' | ⟨_, _, h'⟩ | h' <;> rw [h'] at h
      · cases h
      · simp only [int.injEq] at h
        omega
      · exact .inr (.inl h.symm)
    · rintro (h | h | h) <;> simp only [reduceCtorEq, int.injEq] at h
      obtain rfl : n = 5 := by omega
      rfl
  | rgb r g b =>
    show Rendition.colourAfter b (.tuple [.int 2, .int r, .int g]) =
      .tuple [.int r, .int g, .int b] ↔ _
    constructor
    · intro h
      rcases Rendition.colourAfter_cases b (.tuple [.int 2, .int r, .int g])
        with h' | ⟨_, _, h'⟩ | h' <;> rw [h'] at h
      · cases h
      · cases h
      · -- the triple read back is `(2, r, g)`: it is `(r, g, b)` when all three are 2
        simp only [tuple.injEq, List.cons.injEq, int.injEq, and_true] at h
        obtain ⟨rfl, rfl, rfl⟩ : r = 2 ∧ g = 2 ∧ b = 2 := by omega
        exact .inr (.inr rfl)
    · rintro (h | h | h) <;> simp only [reduceCtorEq, tuple.injEq, List.cons.injEq, int.injEq,
        and_true] at h
      obtain ⟨rfl, rfl, rfl⟩ : r = 2 ∧ g = 2 ∧ b = 2 := by omega
      rfl

example : (Value.int 1).colourReadBack = .int 5 := rfl
example : (Value.int 31).colourReadBack = .int 1 := rfl

end Value

theorem ansi_colour_spelled {v : Value} (hv : v.SpelledColour) :
    Format.ansi.colour v =
      .ok (Text.ofString "\x1b[" ++ Value.colourParams [v] ++ Text.ofString "m") := by
  cases hv with
  | default => rfl
  | palette n =>
    have hpre : Text.ofString "\x1b[38;5;" = Text.ofString "\x1b[" ++
        (Text.ofString (toString 38) ++ Text.ofString ";" ++
          (Text.ofString (toString 5) ++ Text.ofString ";")) := by decide
    show Except.ok (Text.ofString "\x1b[38;5;" ++ Text.ofString (toString n) ++
      Text.ofString "m") = _
    rw [hpre]
    simp only [Value.colourParams, Value.colourCodes, List.flatMap_singleton, List.map_cons,
      List.map_nil, List.intercalate_cons_cons, List.intercalate_singleton, List.append_assoc]
  | rgb r g b =>
    have hpre : Text.ofString "\x1b[38;2;" = Text.ofString "\x1b[" ++
        (Text.ofString (toString 38) ++ Text.ofString ";" ++
          (Text.ofString (toString 2) ++ Text.ofString ";")) := by decide
    show Except.ok (Text.ofString "\x1b[38;2;" ++ Text.ofString (toString r) ++ Text.ofString ";" ++
      Text.ofString (toString g) ++ Text.ofString ";" ++ Text.ofString (toString b) ++
      Text.ofString "m") = _
    rw [hpre]
    simp only [Value.colourParams, Value.colourCodes, List.flatMap_singleton, List.map_cons,
      List.map_nil, List.intercalate_cons_cons, List.intercalate_singleton, List.append_assoc]

namespace Terminal

theorem setPen_eq (c : Value) (t : Terminal) :
    setPen c t = .ok () { t with screen := { t.screen with pen := c } } := rfl

theorem renditions_nil (t : Terminal) : renditions [] t = .ok () t := by
  rw [renditions]
  rfl

theorem renditions_zero (t : Terminal) : renditions [0] t = setPen .null t := by
  rw [renditions.eq_def]
  dsimp only
  rw [show Rendition.ofCode 0 = .reset by decide]
  exact (bind_ok_of (setPen_eq .null t)).trans (renditions_nil _)

theorem renditions_cons_code {n : Int} {rest : List Int}
    (h : Rendition.ofCode n ≠ .extended ∨ rest = []) (t : Terminal) : ∃ ns,
    renditions (n :: rest) t = renditions rest { t with
      screen := { t.screen with pen := Rendition.colourAfter n t.screen.pen },
      notices := t.notices ++ ns } := by
  rw [renditions.eq_def]
  dsimp only
  unfold Rendition.colourAfter
  cases hc : Rendition.ofCode n with
  | reset => exact ⟨[], by simp only [List.append_nil]; exact bind_ok_of (setPen_eq .null t)⟩
  | palette i =>
    exact ⟨[], by simp only [List.append_nil]; exact bind_ok_of (setPen_eq (.int i) t)⟩
  | ignored => exact ⟨[], by simp only [List.append_nil]⟩
  | unknown code => exact ⟨[.unknownGraphic code], bind_ok_of rfl⟩
  | extended =>
    -- `38` with nothing after it names no colour
    obtain rfl : rest = [] := h.resolve_left (by simp [hc])
    exact ⟨[.badColour], bind_ok_of rfl⟩

/-- `38;5` sets palette entry 5, whatever follows. -/
theorem renditions_extended_five (rest : List Int) :
    renditions (38 :: 5 :: rest) = (do setPen (.int 5); renditions rest) := by
  funext t
  rw [renditions.eq_def]
  simp only [Rendition.ofCode_eq_extended.mpr rfl, ↓reduceIte]

theorem renditions_extended_triple {m : Int} (hm : m ≠ 5) (a b : Int) (rest : List Int) :
    renditions (38 :: m :: a :: b :: rest) =
      (do setPen (.tuple [.int m, .int a, .int b]); renditions rest) := by
  funext t
  rw [renditions.eq_def]
  simp only [Rendition.ofCode_eq_extended.mpr rfl, if_neg hm]

theorem last_code_acts {codes : List Nat} {n : Nat} {rest : List Int}
    (h : (codes ++ [n]).getLast? ≠ some 38 ∨ rest = []) :
    Rendition.ofCode n ≠ .extended ∨ rest = [] := by
  refine h.imp_left fun h38 hn => h38 ?_
  rw [Rendition.ofCode_eq_extended] at hn
  obtain rfl : n = 38 := by omega
  simp

theorem renditions_colourCodes {v : Value} (hv : v.SpelledColour) (rest : List Int)
    (h : v.colourCodes.getLast? ≠ some 38 ∨ rest = []) (t : Terminal) : ∃ ns,
    renditions (v.colourCodes.map (fun n : Nat => (n : Int)) ++ rest) t = renditions rest { t with
      screen := { t.screen with pen := v.colourReadBack }, notices := t.notices ++ ns } := by
  cases hv with
  | default => exact @renditions_cons_code 0 rest (.inl (by decide)) t
  | palette n =>
    obtain ⟨ns, hns⟩ := @renditions_cons_code n rest (@last_code_acts [38, 5] n rest h) _
    refine ⟨ns, ?_⟩
    show renditions (38 :: 5 :: (n : Int) :: rest) t = _
    rw [renditions_extended_five, bind_ok_of (setPen_eq _ t), hns]
    rfl
  | rgb r g b =>
    obtain ⟨ns, hns⟩ := @renditions_cons_code b rest (@last_code_acts [38, 2, r, g] b rest h) _
    refine ⟨ns, ?_⟩
    show renditions (38 :: 2 :: (r : Int) :: (g : Int) :: (b : Int) :: rest) t = _
    rw [renditions_extended_triple (by decide), bind_ok_of (setPen_eq _ t), hns]
    rfl

theorem renditions_colours {ws : List Value} {v : Value} (hws : ∀ w ∈ ws, w.SpelledColour)
    (h38 : ∀ w ∈ ws, w.colourCodes.getLast? ≠ some 38) (hv : v.SpelledColour) (t : Terminal) :
    ∃ ns, renditions (((ws ++ [v]).flatMap Value.colourCodes).map fun n : Nat => (n : Int)) t =
      .ok () { t with
        screen := { t.screen with pen := v.colourReadBack }, notices := t.notices ++ ns } := by
  induction ws generalizing t with
  | nil =>
    obtain ⟨ns, h⟩ := renditions_colourCodes hv [] (.inr rfl) t
    refine ⟨ns, ?_⟩
    rw [List.nil_append, List.flatMap_singleton, ← List.append_nil (List.map _ _), h,
      renditions_nil]
  | cons w ws ih =>
    obtain ⟨ns, h⟩ := renditions_colourCodes (hws w List.mem_cons_self) _
      (.inl (h38 w List.mem_cons_self)) t
    obtain ⟨ns', h'⟩ := ih (fun w hw => hws w (List.mem_cons_of_mem _ hw))
      (fun w hw => h38 w (List.mem_cons_of_mem _ hw)) _
    refine ⟨ns ++ ns', ?_⟩
    rw [List.cons_append, List.flatMap_cons, List.map_append, h, h', List.append_assoc]

theorem graphic_codes {p : Text} (hp : p ≠ []) {codes : List Int}
    (hc : (digitRuns p).mapM readCount = .ok codes) (t : Terminal) :
    graphic (.str p) t = renditions codes t := by
  by_cases h0 : p = Text.ofString "0"
  · -- the text "0" alone is a reset, as its one code 0 is
    subst h0
    have hz : (digitRuns (Text.ofString "0")).mapM readCount = .ok [0] := by
      rw [show Text.ofString "0" = Text.ofString (toString 0) from rfl, digitRuns_numeral,
        List.mapM_cons, readCount_toString 0 (by decide)]
      rfl
    obtain rfl : codes = [0] := by
      rw [hz] at hc
      exact (Except.ok.inj hc).symm
    rw [graphic, if_pos (by decide), renditions_zero]
  · rw [graphic, if_neg (by simpa [Value.isText_str] using ⟨h0, hp⟩)]
    exact lift_bind_ok hc t

/-- One rendition sequence spelling colours `ws` then `v` sets the pen to `v` read back, when no
colour of `ws` ends in the code 38. -/
theorem write_colours {ws : List Value} {v : Value} (hws : ∀ w ∈ ws, w.SpelledColour)
    (h38 : ∀ w ∈ ws, w.colourCodes.getLast? ≠ some 38) (hv : v.SpelledColour) (t : Terminal) :
    ∃ ns, write (Text.ofString "\x1b[" ++ Value.colourParams (ws ++ [v]) ++ Text.ofString "m") t =
      .ok () { t with
        screen := { t.screen with pen := v.colourReadBack }, notices := t.notices ++ ns } := by
  have hshort : ∀ n ∈ (ws ++ [v]).flatMap Value.colourCodes,
      (toString n).length ≤ Text.digitLimit := by
    intro n hn
    obtain ⟨w, hw, hn⟩ := List.mem_flatMap.mp hn
    rcases List.mem_append.mp hw with hw | hw
    · exact (hws w hw).codes_short n hn
    · rw [List.eq_of_mem_singleton hw] at hn
      exact hv.codes_short n hn
  have hruns := digitRuns_joined ((ws ++ [v]).flatMap Value.colourCodes)
  have hne : Value.colourParams (ws ++ [v]) ≠ [] := by
    intro hp
    have hnil : digitRuns [] = [] := by
      rw [digitRuns_eq]
      rfl
    unfold Value.colourParams at hp
    rw [hp, hnil] at hruns
    have hcodes := List.map_eq_nil_iff.mp hruns.symm
    exact hv.codes_ne_nil (List.flatMap_eq_nil_iff.mp hcodes v (by simp))
  unfold Value.colourParams at hne ⊢
  rw [show Text.ofString "m" = [Point.char 'm'] from rfl, write_csi (isParam_joined _) (by decide),
    control_graphic, graphic_codes hne (by rw [hruns]; exact mapM_readCount_numerals hshort)]
  exact renditions_colours hws h38 hv t

end Terminal

/-- Writing a colour's spelling back sets the pen to the colour read back and changes nothing
else of the screen; in one sequence the last colour decides, unless an earlier one ends in 38. -/
theorem colour_escapes_decode (t : Terminal) :
    (∀ v : Value, v.SpelledColour → ∃ e, Format.ansi.colour v = .ok e ∧
      ∃ ns, Terminal.write e t = .ok () { t with
        screen := { t.screen with pen := v.colourReadBack }, notices := t.notices ++ ns }) ∧
    (∀ v : Value, v.SpelledColour →
      (v.colourReadBack = v ↔
        v = .null ∨ v = .int 5 ∨ v = .tuple [.int 2, .int 2, .int 2])) ∧
    (∀ (ws : List Value) (v : Value), (∀ w ∈ ws, w.SpelledColour) →
      (∀ w ∈ ws, w.colourCodes.getLast? ≠ some 38) → v.SpelledColour →
      ∃ ns, Terminal.write (Text.ofString "\x1b[" ++ Value.colourParams (ws ++ [v]) ++
          Text.ofString "m") t =
        .ok () { t with
          screen := { t.screen with pen := v.colourReadBack }, notices := t.notices ++ ns }) := by
  refine ⟨fun v hv => ⟨_, ansi_colour_spelled hv, ?_⟩, fun v hv => hv.readBack_eq_iff,
    fun ws v hws h38 hv => Terminal.write_colours hws h38 hv t⟩
  exact @Terminal.write_colours [] v nofun nofun hv t

/-- The default and then palette entry 5 in one sequence leave palette entry 5. -/
theorem colour_escapes_decode_default_then_five :
    ∃ ns, Terminal.write (Text.ofString "\x1b[" ++ Value.colourParams ([.null] ++ [.int 5]) ++
        Text.ofString "m") (Terminal.ofScreen (Screen.blank (.int 4) (.int 2) 4)) =
      .ok () { Terminal.ofScreen (Screen.blank (.int 4) (.int 2) 4) with
        screen := { (Screen.blank (.int 4) (.int 2) 4) with pen := .int 5 },
        notices := [] ++ ns } :=
  (colour_escapes_decode (Terminal.ofScreen (Screen.blank (.int 4) (.int 2) 4))).2.2
    [.null] (.int 5)
    (by simpa using Value.SpelledColour.default) (by simp [Value.colourCodes])
    (.palette 5 (by decide))

end TermSnap
