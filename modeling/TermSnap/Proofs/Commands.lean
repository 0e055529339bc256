import Mathlib.Data.List.TakeWhile
import TermSnap.Proofs.Splitting
/-!
# Operating-system commands

An operating-system command runs from `ESC ]` or U+009D to the first BEL after it, and writing it
does nothing (`commands_end_at_bell`). The string terminator `ESC \` does not end one: the command
runs on to a later BEL, or else its payload is printed.
-/

namespace TermSnap

namespace Token

/-- Whether a text holds no introducer of a sequence: no `ESC`, U+009B or U+009D. -/
def plain (a : Text) : Bool := a.all fun c => c != esc && c != .char '\x9b' && c != .char '\x9d'

/-- An operating-system command ended by the string terminator `ESC \` instead of BEL. -/
def stCommand (i : Introducer) (p : Text) : Text := i.spelling ']' ++ p ++ [esc, .char '\\']

theorem plain_cons {c : Point} {cs : Text} (h : plain (c :: cs) = true) :
    c ≠ esc ∧ c ≠ .char '\x9b' ∧ c ≠ .char '\x9d' ∧ plain cs = true := by
  simp only [plain, List.all_cons, Bool.and_eq_true, bne_iff_ne, ne_eq] at h
  exact ⟨h.1.1.1, h.1.1.2, h.1.2, h.2⟩

theorem plain_of_suffix {a b : Text} (h : plain b = true) (hs : a <:+ b) : plain a = true := by
  simp only [plain, List.all_eq_true] at h ⊢
  exact fun c hc => h c (hs.subset hc)

/-! ### Where a command ends -/

theorem commandBody_append_bel {p : Text} (hp : bel ∉ p) (b : Text) :
    commandBody (p ++ bel :: b) = some (p, b) := by
  have hall : ∀ c ∈ p, (c != bel) = true := fun c hc => bne_iff_ne.mpr fun h => hp (h ▸ hc)
  unfold commandBody
  rw [List.dropWhile_append_of_pos hall, List.takeWhile_append_of_pos hall,
    List.dropWhile_cons_of_neg (by simp), List.takeWhile_cons_of_neg (by simp), List.append_nil]

theorem commandBody_eq_none {cs : Text} (h : bel ∉ cs) : commandBody cs = none := by
  have hall : ∀ c ∈ cs, (c != bel) = true := fun c hc => bne_iff_ne.mpr fun h' => h (h' ▸ hc)
  unfold commandBody
  rw [List.dropWhile_eq_nil_iff.mpr hall]

/-- `ESC` is no parameter, intermediate or final character, so it ends no control sequence. -/
theorem controlBody_append_esc {cs : Text} (h : controlBody cs = none) (q : Text) :
    controlBody (cs ++ esc :: q) = none := by
  have hp : isParam esc = false := by decide
  have hi : isIntermediate esc = false := by decide
  have hf : isFinal esc = false := by decide
  unfold controlBody at h ⊢
  simp only at h ⊢
  by_cases hd : cs.dropWhile isParam = []
  · have hall := List.dropWhile_eq_nil_iff.mp hd
    rw [List.dropWhile_append_of_pos hall, List.dropWhile_cons_of_neg (by simp [hp]),
      List.dropWhile_cons_of_neg (by simp [hi])]
    simp [hf]
  · rw [dropWhile_append_of_dropWhile _ hd]
    by_cases hd' : (cs.dropWhile isParam).dropWhile isIntermediate = []
    · have hall := List.dropWhile_eq_nil_iff.mp hd'
      rw [List.dropWhile_append_of_pos hall, List.dropWhile_cons_of_neg (by simp [hi])]
      simp [hf]
    · rw [dropWhile_append_of_dropWhile _ hd']
      obtain ⟨f, rest, hfr⟩ := List.exists_cons_of_ne_nil hd'
      rw [hfr] at h ⊢
      have hnf : isFinal f = false := by
        cases hff : isFinal f
        · rfl
        · simp [hff] at h
      simp [hnf]

theorem commandBody_eq_none_iff {cs : Text} : commandBody cs = none ↔ bel ∉ cs := by
  refine ⟨fun h hmem => ?_, commandBody_eq_none⟩
  have hne : cs.dropWhile (· != bel) ≠ [] := by
    intro hd
    have := List.dropWhile_eq_nil_iff.mp hd bel hmem
    simp at this
  obtain ⟨x, r, hd⟩ := List.exists_cons_of_ne_nil hne
  unfold commandBody at h
  rw [hd] at h
  cases h

/-! ### What follows a token -/

theorem commandBody_suffix {cs p rest : Text} (h : commandBody cs = some (p, rest)) :
    rest <:+ cs := by
  unfold commandBody at h
  split at h
  · rename_i x r hd
    simp only [Option.some.injEq, Prod.mk.injEq] at h
    obtain ⟨-, rfl⟩ := h
    have hs := List.dropWhile_suffix (· != bel) (l := cs)
    rw [hd] at hs
    exact (List.suffix_cons x _).trans hs
  · cases h

theorem controlBody_suffix {cs ps is rest : Text} {f : Point}
    (h : controlBody cs = some (ps, is, f, rest)) : rest <:+ cs := by
  unfold controlBody at h
  simp only at h
  split at h
  · rename_i f' r hd
    split at h
    · simp only [Option.some.injEq, Prod.mk.injEq] at h
      obtain ⟨-, -, -, rfl⟩ := h
      have h1 := List.dropWhile_suffix isIntermediate (l := cs.dropWhile isParam)
      have h2 := List.dropWhile_suffix isParam (l := cs)
      rw [hd] at h1
      exact ((List.suffix_cons f' _).trans h1).trans h2
    · cases h
  · cases h

theorem suffix_first (c : Point) (cs : Text) : (first c cs).2 <:+ cs := by
  unfold first
  split
  · split
    · split
      · rename_i h; exact (commandBody_suffix h).trans (List.suffix_cons _ _)
      · exact List.suffix_cons _ _
    · split
      · rename_i h; exact (controlBody_suffix h).trans (List.suffix_cons _ _)
      · exact List.suffix_cons _ _
    · split
      · exact List.suffix_cons _ _
      · exact List.suffix_refl _
    · exact List.suffix_refl _
  · split
    · split
      · rename_i h; exact commandBody_suffix h
      · exact List.suffix_refl _
    · split
      · split
        · rename_i h; exact controlBody_suffix h
        · exact List.suffix_refl _
      · split
        · exact List.dropWhile_suffix _
        · split
          · exact List.suffix_refl _
          · split
            · exact List.suffix_refl _
            · split <;> exact List.suffix_refl _

theorem settled_of_plain (a : Text) (h : plain a = true) : settled a = true := by
  induction a using scan.induct with
  | case1 => exact settled_nil
  | case2 c cs _ ih =>
    obtain ⟨h1, h2, h3, hcs⟩ := plain_cons h
    -- the first token is a run of printable characters or a character alone
    have hu : (first c cs).1.unfinished = false := by
      cases hp : isPrintable c with
      | true => rw [first_printable cs hp]; rfl
      | false =>
        rw [first_plain cs h1 h3 h2 hp]
        simp only [first, h1, h2, h3, hp, if_false, Bool.false_eq_true]
        split
        · rfl
        · split
          · rfl
          · split
            · rfl
            · simp [unfinished, h1, h2, h3]
    rw [settled_cons, hu, ih (plain_of_suffix hcs (suffix_first c cs))]
    rfl

/-- Before `ESC`, with no BEL after it, the first token of a text without `ESC` is read as if the
text stopped there. -/
theorem first_append_esc {c : Point} (cs : Text) (hc : c ≠ esc) {q : Text} (hq : bel ∉ q) :
    first c (cs ++ esc :: q) = ((first c cs).1, (first c cs).2 ++ esc :: q) := by
  by_cases h9d : c = .char '\x9d'
  · subst h9d
    cases hb : commandBody cs with
    | none =>
      have hbel : bel ∉ cs ++ esc :: q := by
        simp only [List.mem_append, List.mem_cons, not_or]
        exact ⟨commandBody_eq_none_iff.mp hb, by decide, hq⟩
      rw [first_command8_none hb, first_command8_none (commandBody_eq_none hbel)]
    | some pr =>
      obtain ⟨p, rest⟩ := pr
      rw [first_command8 hb, first_command8 (commandBody_append _ hb)]
  · by_cases h9b : c = .char '\x9b'
    · subst h9b
      cases hb : controlBody cs with
      | none => rw [first_control8_none hb, first_control8_none (controlBody_append_esc hb q)]
      | some r =>
        obtain ⟨ps, is, f, rest⟩ := r
        rw [first_control8 hb, first_control8 (controlBody_append _ hb)]
    · cases hp : isPrintable c with
      | true =>
        rw [first_printable cs hp, first_printable _ hp]
        by_cases hr : cs.dropWhile isPrintable = []
        · -- the run takes all of `cs` and stops at `ESC`
          have hall := List.dropWhile_eq_nil_iff.mp hr
          have he : isPrintable esc = false := by decide
          rw [List.takeWhile_append_of_pos hall, List.dropWhile_append_of_pos hall, hr,
            List.takeWhile_cons_of_neg (by simp [he]), List.dropWhile_cons_of_neg (by simp [he]),
            List.append_nil, List.nil_append, List.takeWhile_eq_self_iff.mpr hall]
        · rw [takeWhile_append_of_dropWhile _ hr, dropWhile_append_of_dropWhile _ hr]
      | false => rw [first_plain _ hc h9d h9b hp, first_plain cs hc h9d h9b hp]

theorem scan_append_esc (p : Text) (hp : esc ∉ p) {q : Text} (hq : bel ∉ q) :
    scan (p ++ esc :: q) = scan p ++ scan (esc :: q) := by
  induction p using scan.induct with
  | case1 => rw [List.nil_append, scan.eq_1, List.nil_append]
  | case2 c cs _ ih =>
    have hc : c ≠ esc := fun h => hp (h ▸ List.mem_cons_self)
    have hrest : esc ∉ (first c cs).2 :=
      fun h => hp (List.mem_cons_of_mem _ ((suffix_first c cs).subset h))
    rw [List.cons_append, scan.eq_2 c (cs ++ esc :: q), first_append_esc cs hc hq, ih hrest,
      scan.eq_2 c cs, List.cons_append]

end Token

namespace Terminal

open Token

theorem applyAll_append (xs ys : List Token) :
    applyAll (xs ++ ys) = (applyAll xs >>= fun _ => applyAll ys) := by
  induction xs with
  | nil => simp [applyAll]
  | cons t ts ih => simp [applyAll, ih]

theorem spelling_eightBit_command : Introducer.spelling ']' .eightBit = [.char '\x9d'] := by
  decide

theorem write_command_then (i : Introducer) {p : Text} (hp : bel ∉ p) (b : Text) :
    write ((command i p).spelling ++ b) = write b := by
  have hfirst : scan ((command i p).spelling ++ b) = command i p :: scan b := by
    cases i with
    | sevenBit =>
      rw [show (command .sevenBit p).spelling ++ b = esc :: .char ']' :: (p ++ bel :: b) by
          simp [spelling, Introducer.spelling, esc],
        scan.eq_2, first_esc_command (commandBody_append_bel hp b)]
    | eightBit =>
      rw [show (command .eightBit p).spelling ++ b = .char '\x9d' :: (p ++ bel :: b) by
          simp [spelling, spelling_eightBit_command],
        scan.eq_2, first_command8 (commandBody_append_bel hp b)]
  rw [write, hfirst, applyAll, apply]
  simp [write]

theorem write_stCommand_to_bel (i : Introducer) {p b₁ : Text} (hp : bel ∉ p) (hb₁ : bel ∉ b₁)
    (b₂ : Text) : write (stCommand i p ++ b₁ ++ bel :: b₂) = write b₂ := by
  have hbody : bel ∉ p ++ [esc, .char '\\'] ++ b₁ := by
    simp only [List.mem_append, List.mem_cons, List.not_mem_nil, not_or]
    exact ⟨⟨hp, by decide, by decide, not_false⟩, hb₁⟩
  rw [show stCommand i p ++ b₁ ++ bel :: b₂ =
      (command i (p ++ [esc, .char '\\'] ++ b₁)).spelling ++ b₂ by
    simp [stCommand, spelling]]
  exact write_command_then i hbody b₂

/-- A command ended by `ESC \` with no BEL after it is no command: its payload is printed. -/
theorem write_stCommand_unended (i : Introducer) {p : Text} (hpe : esc ∉ p) (hpb : bel ∉ p)
    {b : Text} (hb : bel ∉ b) :
    write (stCommand i p ++ b) =
      (write (i.spelling ']') >>= fun _ => write p >>= fun _ => write b) := by
  have hr : bel ∉ p ++ esc :: .char '\\' :: b := by
    simp only [List.mem_append, List.mem_cons, not_or]
    exact ⟨hpb, by decide, by decide, hb⟩
  -- after the payload, the terminator is an escape of its own
  have hst : scan (p ++ esc :: .char '\\' :: b) = scan p ++ escape (.char '\\') :: scan b := by
    rw [scan_append_esc p hpe (by simp only [List.mem_cons, not_or]; exact ⟨by decide, hb⟩),
      scan.eq_2, first_esc_other b (by decide) (by decide), if_pos (by decide)]
  have hpayload : applyAll (scan (p ++ esc :: .char '\\' :: b)) =
      (write p >>= fun _ => write b) := by
    rw [hst, applyAll_append, write, write]
    simp [applyAll, apply]
  cases i with
  | sevenBit =>
    have hintro : write (Introducer.spelling ']' .sevenBit) = pure () := by
      rw [write, show Introducer.spelling ']' .sevenBit = [esc, .char ']'] from rfl, scan.eq_2,
        first_esc_command_none (commandBody_eq_none (List.not_mem_nil)), scan.eq_1]
      simp [applyAll, apply]
    rw [show stCommand .sevenBit p ++ b = esc :: .char ']' :: (p ++ esc :: .char '\\' :: b) by
        simp [stCommand, Introducer.spelling, esc],
      write, scan.eq_2, first_esc_command_none (commandBody_eq_none hr), applyAll, apply,
      hpayload, hintro]
  | eightBit =>
    have hintro : write (Introducer.spelling ']' .eightBit) = note .unmatched := by
      rw [write, spelling_eightBit_command, scan.eq_2,
        first_command8_none (commandBody_eq_none (List.not_mem_nil)), scan.eq_1]
      simp [applyAll, apply]
    rw [show stCommand .eightBit p ++ b = .char '\x9d' :: (p ++ esc :: .char '\\' :: b) by
        simp [stCommand, spelling_eightBit_command],
      write, scan.eq_2, first_command8_none (commandBody_eq_none hr), applyAll, apply, hpayload,
      hintro]

/-- After a text with no introducer, a command ended by BEL is skipped and nothing else is; one
ended by `ESC \` runs on to a later BEL, or else its payload is written as output. -/
theorem commands_end_at_bell (i : Introducer) {a p : Text} (ha : plain a = true) (hp : bel ∉ p) :
    (∀ b, write (a ++ (command i p).spelling ++ b) = write (a ++ b)) ∧
      (∀ b₁ b₂, bel ∉ b₁ → write (a ++ stCommand i p ++ b₁ ++ bel :: b₂) = write (a ++ b₂)) ∧
      (esc ∉ p → ∀ b, bel ∉ b → write (a ++ stCommand i p ++ b) =
        (write (a ++ i.spelling ']') >>= fun _ => write p >>= fun _ => write b)) := by
  -- `a` leaves no sequence unfinished, so what follows it is read from scratch
  have hsplit := write_append_of_settled.1 a
  have hs := settled_of_plain a ha
  refine ⟨fun b => ?_, fun b₁ b₂ hb₁ => ?_, fun hpe b hb => ?_⟩
  · rw [List.append_assoc, ← hsplit _ hs, write_command_then i hp b, hsplit _ hs]
  · rw [List.append_assoc, List.append_assoc, ← List.append_assoc (stCommand i p), ← hsplit _ hs,
      write_stCommand_to_bel i hp hb₁ b₂, hsplit _ hs]
  · rw [List.append_assoc, ← hsplit _ hs, write_stCommand_unended i hpe hp hb, ← hsplit _ hs]
    simp only [bind_assoc]

/-- A title set between two words, ended by BEL or by `ESC \`. -/
theorem commands_end_at_bell_title :
    plain (Text.ofString "x") = true ∧ bel ∉ Text.ofString "0;t" ∧ esc ∉ Text.ofString "0;t" ∧
      ((∀ b, write (Text.ofString "x" ++ (command .sevenBit (Text.ofString "0;t")).spelling ++ b) =
          write (Text.ofString "x" ++ b)) ∧
        (∀ b₁ b₂, bel ∉ b₁ → write (Text.ofString "x" ++ stCommand .sevenBit (Text.ofString "0;t") ++
          b₁ ++ bel :: b₂) = write (Text.ofString "x" ++ b₂)) ∧
        (esc ∉ Text.ofString "0;t" → ∀ b, bel ∉ b →
          write (Text.ofString "x" ++ stCommand .sevenBit (Text.ofString "0;t") ++ b) =
            (write (Text.ofString "x" ++ Introducer.spelling ']' .sevenBit) >>= fun _ =>
              write (Text.ofString "0;t") >>= fun _ => write b))) :=
  ⟨by decide, by decide, by decide, commands_end_at_bell .sevenBit (by decide) (by decide)⟩

/-- On a blank screen, `ESC ] 0 ; t ESC \` prints its payload and leaves the cursor at column 3. -/
theorem write_st_command_prints_payload :
    write ([] ++ stCommand .sevenBit (Text.ofString "0;t") ++ [])
        (ofScreen (Screen.blank (.int 10) (.int 3) 10)) ≠
      write ([] ++ []) (ofScreen (Screen.blank (.int 10) (.int 3) 10)) := by
  have hprinted : (finalState (write ([] ++ stCommand .sevenBit (Text.ofString "0;t") ++ [])
      (ofScreen (Screen.blank (.int 10) (.int 3) 10)))).screen.x.asInt? = some 3 := by
    decide +kernel
  have hblank : (finalState (write ([] ++ [])
      (ofScreen (Screen.blank (.int 10) (.int 3) 10)))).screen.x.asInt? = some 0 := by
    decide +kernel
  intro h
  rw [h, hblank] at hprinted
  exact absurd hprinted (by decide)

end Terminal

end TermSnap
