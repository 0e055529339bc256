import TermSnap.Proofs.Keeps
import TermSnap.Proofs.Tokens
/-!
# Splitting terminal output

A recording cuts a program's output into frames, each written on its own. When the text before a
cut leaves no sequence unfinished, writing the parts in turn is writing the whole
(`write_append_of_settled`); a cut inside a sequence is not harmless (`write_split_escape`).
-/

namespace TermSnap

namespace Token

/-- Whether a token is an introducer that started no sequence, which text after it could finish. -/
def unfinished : Token → Bool
  | escape c => c == .char ']' || c == .char '['
  | stray c => c == esc || c == .char '\x9b' || c == .char '\x9d'
  | _ => false

/-- Whether a text, read on its own, leaves no sequence unfinished. -/
def settled (a : Text) : Bool := (scan a).all fun t => !t.unfinished

theorem settled_nil : settled [] = true := by
  simp [settled, scan]

theorem settled_cons (c : Point) (cs : Text) :
    settled (c :: cs) = (!(first c cs).1.unfinished && settled (first c cs).2) := by
  rw [settled, scan, List.all_cons, settled]

theorem first_append {c : Point} {cs : Text} (b : Text) (hu : (first c cs).1.unfinished = false)
    (hrun : isPrintable c = true → cs.dropWhile isPrintable ≠ []) :
    first c (cs ++ b) = ((first c cs).1, (first c cs).2 ++ b) := by
  by_cases hc : c = esc
  · subst hc
    cases cs with
    | nil => rw [first_esc_nil] at hu; simp [unfinished] at hu
    | cons d r =>
      rw [List.cons_append]
      by_cases h1 : d = .char ']'
      · subst h1
        cases hb : commandBody r with
        | none => rw [first_esc_command_none hb] at hu; simp [unfinished] at hu
        | some pr =>
          obtain ⟨p, rest⟩ := pr
          rw [first_esc_command hb, first_esc_command (commandBody_append b hb)]
      · by_cases h2 : d = .char '['
        · subst h2
          cases hb : controlBody r with
          | none => rw [first_esc_control_none hb] at hu; simp [unfinished] at hu
          | some q =>
            obtain ⟨ps, is, f, rest⟩ := q
            rw [first_esc_control hb, first_esc_control (controlBody_append b hb)]
        · rw [first_esc_other r h1 h2] at hu
          rw [first_esc_other r h1 h2, first_esc_other (r ++ b) h1 h2]
          by_cases hd : d.code < 0x80
          · simp only [if_pos hd]
          · rw [if_neg hd] at hu
            simp [unfinished] at hu
  · by_cases h9d : c = .char '\x9d'
    · subst h9d
      cases hb : commandBody cs with
      | none => rw [first_command8_none hb] at hu; simp [unfinished] at hu
      | some pr =>
        obtain ⟨p, rest⟩ := pr
        rw [first_command8 hb, first_command8 (commandBody_append b hb)]
    · by_cases h9b : c = .char '\x9b'
      · subst h9b
        cases hb : controlBody cs with
        | none => rw [first_control8_none hb] at hu; simp [unfinished] at hu
        | some q =>
          obtain ⟨ps, is, f, rest⟩ := q
          rw [first_control8 hb, first_control8 (controlBody_append b hb)]
      · cases hp : isPrintable c with
        | true =>
          have hne := hrun hp
          rw [first_printable cs hp, first_printable (cs ++ b) hp,
            takeWhile_append_of_dropWhile b hne, dropWhile_append_of_dropWhile b hne]
        | false => rw [first_plain (cs ++ b) hc h9d h9b hp, first_plain cs hc h9d h9b hp]

theorem first_append_run {c : Point} {cs : Text} (b : Text) (hc : isPrintable c = true)
    (hr : cs.dropWhile isPrintable = []) :
    first c (cs ++ b) = (text (c :: cs ++ b.takeWhile isPrintable), b.dropWhile isPrintable) := by
  have hall : ∀ p ∈ cs, isPrintable p = true := by
    intro p hp
    have hcs : cs.takeWhile isPrintable = cs := by
      simpa [hr] using (List.takeWhile_append_dropWhile (p := isPrintable) (l := cs))
    rw [← hcs] at hp
    exact of_mem_takeWhile hp
  rw [first_printable (cs ++ b) hc, List.takeWhile_append_of_pos hall,
    List.dropWhile_append_of_pos hall, List.cons_append]

end Token

namespace Terminal

open Token

theorem printGlyphs_append (xs ys : List Value) :
    printGlyphs (xs ++ ys) = (printGlyphs xs >>= fun _ => printGlyphs ys) := by
  induction xs with
  | nil => simp [printGlyphs]
  | cons g xs ih => simp [printGlyphs, ih]

theorem applyAll_scan_run (b : Text) :
    applyAll (scan b) = (printGlyphs ((b.takeWhile isPrintable).map fun c => .str [c]) >>=
      fun _ => applyAll (scan (b.dropWhile isPrintable))) := by
  cases b with
  | nil => simp [printGlyphs]
  | cons d ds =>
    cases hp : isPrintable d with
    | true =>
      rw [scan, first_printable ds hp, List.takeWhile_cons_of_pos (by simp [hp]),
        List.dropWhile_cons_of_pos (by simp [hp])]
      rfl
    | false =>
      rw [List.takeWhile_cons_of_neg (by simp [hp]), List.dropWhile_cons_of_neg (by simp [hp])]
      simp [printGlyphs]

theorem applyAll_scan_append (a b : Text) (h : settled a = true) :
    applyAll (scan (a ++ b)) = (applyAll (scan a) >>= fun _ => applyAll (scan b)) := by
  induction a using scan.induct with
  | case1 => simp [scan, applyAll]
  | case2 c cs _ ih =>
    rw [settled_cons, Bool.and_eq_true, Bool.not_eq_true'] at h
    obtain ⟨hu, hrest⟩ := h
    by_cases hmerge : isPrintable c = true ∧ cs.dropWhile isPrintable = []
    · obtain ⟨hc, hr⟩ := hmerge
      have hcs : cs.takeWhile isPrintable = cs := by
        simpa [hr] using (List.takeWhile_append_dropWhile (p := isPrintable) (l := cs))
      rw [List.cons_append, scan, first_append_run b hc hr, scan, first_printable cs hc, hr, hcs,
        scan, applyAll_scan_run b]
      simp only [applyAll, apply, List.map_append, printGlyphs_append, bind_assoc]
      simp
    · have hrun : isPrintable c = true → cs.dropWhile isPrintable ≠ [] :=
        fun hc hr => hmerge ⟨hc, hr⟩
      rw [List.cons_append, scan, first_append b hu hrun, scan]
      simp only [applyAll, ih hrest, bind_assoc]

theorem forM_write_of_settled {outs : List Text} (h : ∀ o ∈ outs.dropLast, settled o = true) :
    outs.forM write = write outs.flatten := by
  induction outs with
  | nil => simp [write, scan, applyAll]
  | cons o os ih =>
    simp only [List.forM, List.flatten_cons]
    cases os with
    | nil => simp
    | cons o' os' =>
      have hdrop : (o :: o' :: os').dropLast = o :: (o' :: os').dropLast := rfl
      rw [hdrop] at h
      rw [ih fun x hx => h x (List.mem_cons_of_mem _ hx)]
      exact (applyAll_scan_append o _ (h o List.mem_cons_self)).symm

/-- Writing a text in two parts, the first leaving no sequence unfinished, is writing it whole;
and so writing frames in turn, all but the last settled, is writing them joined. -/
theorem write_append_of_settled :
    (∀ a b : Text, settled a = true → (write a >>= fun _ => write b) = write (a ++ b)) ∧
    (∀ outs : List Text, (∀ o ∈ outs.dropLast, settled o = true) →
      outs.forM write = write outs.flatten) :=
  ⟨fun a b h => (applyAll_scan_append a b h).symm, fun _ => forM_write_of_settled⟩

theorem write_settled_escape :
    settled [esc, .char '\n'] = true ∧
      (write [esc, .char '\n'] >>= fun _ => write [.char '\n']) =
        write ([esc, .char '\n'] ++ [.char '\n']) := by
  have h : settled [esc, .char '\n'] = true := by
    rw [settled_cons, first_esc_other [] (by decide) (by decide), if_pos (by decide), settled_nil]
    rfl
  exact ⟨h, write_append_of_settled.1 _ _ h⟩

/-- A cut between `ESC` and a line feed matters: whole they are one escape, apart the line feed
moves the cursor down. -/
theorem write_split_escape :
    (write [esc] >>= fun _ => write [.char '\n'])
        (ofScreen (Screen.blank (.int 10) (.int 3) 10)) ≠
      write ([esc] ++ [.char '\n']) (ofScreen (Screen.blank (.int 10) (.int 3) 10)) := by
  have hsplit : (finalState ((write [esc] >>= fun _ => write [.char '\n'])
      (ofScreen (Screen.blank (.int 10) (.int 3) 10)))).screen.y.asInt? = some 1 := by
    rw [write, write, scan, first_esc_nil, scan, scan,
      first_plain [] (by decide) (by decide) (by decide) (by decide), scan]
    rfl
  have hwhole : (finalState (write ([esc] ++ [.char '\n'])
      (ofScreen (Screen.blank (.int 10) (.int 3) 10)))).screen.y.asInt? = some 0 := by
    rw [write, List.singleton_append, scan, first_esc_other [] (by decide) (by decide),
      if_pos (by decide), scan]
    rfl
  intro h
  rw [h, hwhole] at hsplit
  exact absurd hsplit (by decide)

end Terminal

end TermSnap
