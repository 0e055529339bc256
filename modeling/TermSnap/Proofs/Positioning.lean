import TermSnap.Proofs.Motion
import TermSnap.Proofs.Numerals
/-!
# Cursor positioning

`ESC [ r ; c H` and `ESC [ r ; c f` move the cursor relative to where it stands, by `r - 1`
columns and `c - 1` rows, an empty or missing field counting as 1, and `ESC [ c G` moves to
column `c` (`position_sequences_move_relative`).
-/

namespace TermSnap

namespace Terminal

open Screen

variable {W H : Nat} {t : Terminal} {x y : Int}

theorem fieldValue_toString (n : Nat) (h : (toString n).length ≤ Text.digitLimit) :
    fieldValue (Text.ofString (toString n)) = .ok n := by
  obtain ⟨d, ds, hn, -⟩ := Text.numeral_cons n
  rw [fieldValue, if_neg (by rw [hn]; simp), readCount_toString n h]

theorem motionCount_toString (n : Nat) (h : (toString n).length ≤ Text.digitLimit) :
    motionCount (.str (Text.ofString (toString n))) = .ok n := by
  obtain ⟨d, ds, hn, -⟩ := Text.numeral_cons n
  rw [motionCount, if_neg (by rw [hn]; simp [Value.isText, Text.ofString]), readCount_toString n h]

/-- The parameters `r;c` are read as `r`, `c` and a last, empty field counting 1. -/
theorem positionFields_values (r c : Nat) (hr : (toString r).length ≤ Text.digitLimit)
    (hc : (toString c).length ≤ Text.digitLimit) :
    (positionFields (Text.ofString (toString r) ++ .char ';' :: Text.ofString (toString c))).mapM
      fieldValue = .ok [r, c, 1] := by
  rw [positionFields_numeral_semicolon, positionFields_numeral]
  simp only [List.mapM_cons, List.mapM_nil, fieldValue_toString r hr, fieldValue_toString c hc]
  rfl

theorem moveBy_zero (hs : t.screen.Shaped W H) (hx : t.screen.x = .int x)
    (hy : t.screen.y = .int y) (hx0 : 0 ≤ x) (hxW : x < W) (hy0 : 0 ≤ y) (hyH : y < H) :
    moveBy (.int 0) (.int 0) t = .ok () t := by
  rw [moveBy_up hs hx hy hx0 hxW (by omega) hyH (Int.le_refl 0), Int.add_zero, ← hy]

end Terminal

/-- `ESC [ r ; c H` and `ESC [ r ; c f` move by `r - 1` columns and `c - 1` rows, `ESC [ H` moves
nothing, and `ESC [ c G` moves to column `c`. -/
theorem position_sequences_move_relative {W H : Nat} {t : Terminal} (hs : t.screen.Shaped W H)
    {x y : Int} (hx : t.screen.x = .int x) (hy : t.screen.y = .int y) (hx0 : 0 ≤ x)
    (hxW : x < W) (hy0 : 0 ≤ y) (hyH : y < H) (r c : Nat)
    (hr : (toString r).length ≤ Text.digitLimit) (hc : (toString c).length ≤ Text.digitLimit) :
    Terminal.write (Text.ofString ("\x1b[" ++ toString r ++ ";" ++ toString c ++ "H")) t =
        Terminal.moveBy (.int (r - 1)) (.int (c - 1)) t ∧
      Terminal.write (Text.ofString ("\x1b[" ++ toString r ++ ";" ++ toString c ++ "f")) t =
        Terminal.moveBy (.int (r - 1)) (.int (c - 1)) t ∧
      Terminal.write (Text.ofString "\x1b[H") t = .ok () t ∧
      Terminal.write (Text.ofString ("\x1b[" ++ toString c ++ "G")) t =
        Terminal.moveBy (.int (c - x)) (.int 0) t := by
  -- the parameter text `r;c` is made of parameter characters
  have hparams : ∀ q ∈ Text.ofString (toString r) ++ .char ';' :: Text.ofString (toString c),
      Token.isParam q = true := by
    have h := isParam_joined [r, c]
    rw [List.map_cons, List.map_singleton, List.intercalate_cons_cons,
      List.intercalate_singleton, List.append_assoc] at h
    exact h
  have hsplit (f : String) : Text.ofString ("\x1b[" ++ toString r ++ ";" ++ toString c ++ f) =
      Text.ofString "\x1b[" ++
        (Text.ofString (toString r) ++ .char ';' :: Text.ofString (toString c)) ++
          Text.ofString f := by
    simp only [Text.ofString_append, List.append_assoc]
    rfl
  have hv := Terminal.positionFields_values r c hr hc
  refine ⟨?_, ?_, ?_, ?_⟩
  · rw [hsplit, show Text.ofString "H" = [.char 'H'] from rfl, Terminal.write_csi hparams (by decide),
      Terminal.control_position (.inl rfl), Terminal.lift_bind_ok hv t]
    rfl
  · rw [hsplit, show Text.ofString "f" = [.char 'f'] from rfl, Terminal.write_csi hparams (by decide),
      Terminal.control_position (.inr rfl), Terminal.lift_bind_ok hv t]
    rfl
  · -- no parameters: one empty field, counting 1, and a move by nothing
    have hnone : (positionFields []).mapM fieldValue = .ok [1] := by
      rw [positionFields]
      rfl
    have hw : Terminal.write (Text.ofString "\x1b[" ++ [] ++ [.char 'H']) =
        Terminal.control (.str []) (.str [.char 'H']) :=
      Terminal.write_csi (fun _ hq => absurd hq List.not_mem_nil) (by decide)
    rw [List.append_nil] at hw
    rw [show Text.ofString "\x1b[H" = Text.ofString "\x1b[" ++ [.char 'H'] from rfl, hw,
      Terminal.control_position (.inl rfl), Terminal.lift_bind_ok hnone t]
    exact Terminal.moveBy_zero hs hx hy hx0 hxW hy0 hyH
  · obtain ⟨_, _, hcn, hcd⟩ := Text.numeral_cons c
    have hsplitG : Text.ofString ("\x1b[" ++ toString c ++ "G") =
        Text.ofString "\x1b[" ++ Text.ofString (toString c) ++ [.char 'G'] := by
      simp only [Text.ofString_append]
      rfl
    rw [hsplitG, Terminal.write_csi (by rw [hcn]; exact fun q hq => (hcd q hq).2) (by decide),
      Terminal.control_count (by simp) _ hx, Terminal.lift_bind_ok (Terminal.motionCount_toString c hc) t]
    rfl

/-- The positioning sequences on a blank screen ten cells wide and three rows high. -/
theorem position_sequences_move_relative_ten_by_three :
    let t := Terminal.ofScreen { Screen.blank (.int 10) (.int 3) 10 with x := .int 3, y := .int 1 }
    t.screen.Shaped 10 3 ∧ t.screen.x = .int 3 ∧ t.screen.y = .int 1 ∧ (0 : Int) ≤ 3 ∧
    (3 : Int) < (10 : Nat) ∧ (0 : Int) ≤ 1 ∧ (1 : Int) < (3 : Nat) ∧
    (toString 2).length ≤ Text.digitLimit ∧ (toString 3).length ≤ Text.digitLimit ∧
    (Terminal.write (Text.ofString ("\x1b[" ++ toString 2 ++ ";" ++ toString 3 ++ "H")) t =
        Terminal.moveBy (.int ((2 : Nat) - 1)) (.int ((3 : Nat) - 1)) t ∧
      Terminal.write (Text.ofString ("\x1b[" ++ toString 2 ++ ";" ++ toString 3 ++ "f")) t =
        Terminal.moveBy (.int ((2 : Nat) - 1)) (.int ((3 : Nat) - 1)) t ∧
      Terminal.write (Text.ofString "\x1b[H") t = .ok () t ∧
      Terminal.write (Text.ofString ("\x1b[" ++ toString 3 ++ "G")) t =
        Terminal.moveBy (.int ((3 : Nat) - 3)) (.int 0) t) :=
  have hs : (Screen.blank (.int 10) (.int 3) 10).Shaped 10 3 := Screen.shaped_blank 10 3
  have hs' : ({ Screen.blank (.int 10) (.int 3) 10 with x := .int 3, y := .int 1 } : Screen).Shaped
      10 3 := ⟨hs.width, hs.height, hs.rows, hs.cols⟩
  ⟨hs', rfl, rfl, by decide, by decide, by decide, by decide, by decide, by decide,
    position_sequences_move_relative hs' rfl rfl (by decide) (by decide) (by decide) (by decide)
      2 3 (by decide) (by decide)⟩

end TermSnap
