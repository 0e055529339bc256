import TermSnap.Escape.Token
/-!
# Reading tokens

`Token.first` rule by rule, one lemma for each way a first token can be read, so later proofs never
unfold the rules. Every token read is `Admitted`, and a control sequence's spelling reads back as
that one sequence.
-/

namespace TermSnap.Token

/-! ### The first token, rule by rule -/

theorem first_esc_nil : first esc [] = (stray esc, []) := by
  simp only [first, if_pos]

theorem first_esc_command {r p rest : Text} (h : commandBody r = some (p, rest)) :
    first esc (.char ']' :: r) = (command .sevenBit p, rest) := by
  simp only [first, if_pos, h]

theorem first_esc_command_none {r : Text} (h : commandBody r = none) :
    first esc (.char ']' :: r) = (escape (.char ']'), r) := by
  simp only [first, if_pos, h]

theorem first_esc_control {r ps is rest : Text} {f : Point}
    (h : controlBody r = some (ps, is, f, rest)) :
    first esc (.char '[' :: r) = (control .sevenBit ps is f, rest) := by
  simp only [first, if_pos, h]

theorem first_esc_control_none {r : Text} (h : controlBody r = none) :
    first esc (.char '[' :: r) = (escape (.char '['), r) := by
  simp only [first, if_pos, h]

theorem first_esc_other {d : Point} (r : Text) (h1 : d ≠ .char ']') (h2 : d ≠ .char '[') :
    first esc (d :: r) = if d.code < 0x80 then (escape d, r) else (stray esc, d :: r) := by
  simp only [first, if_pos]

theorem first_command8 {cs p rest : Text} (h : commandBody cs = some (p, rest)) :
    first (.char '\x9d') cs = (command .eightBit p, rest) := by
  simp only [first, h]
  rfl

theorem first_command8_none {cs : Text} (h : commandBody cs = none) :
    first (.char '\x9d') cs = (stray (.char '\x9d'), cs) := by
  simp only [first, h]
  rfl

theorem first_control8 {cs ps is rest : Text} {f : Point}
    (h : controlBody cs = some (ps, is, f, rest)) :
    first (.char '\x9b') cs = (control .eightBit ps is f, rest) := by
  simp only [first, h]
  rfl

theorem first_control8_none {cs : Text} (h : controlBody cs = none) :
    first (.char '\x9b') cs = (stray (.char '\x9b'), cs) := by
  simp only [first, h]
  rfl

theorem first_printable {c : Point} (cs : Text) (hc : isPrintable c = true) :
    first c cs = (text (c :: cs.takeWhile isPrintable), cs.dropWhile isPrintable) := by
  have h1 : c ≠ esc := by rintro rfl; exact absurd hc (by decide)
  have h2 : c ≠ .char '\x9d' := by rintro rfl; exact absurd hc (by decide)
  have h3 : c ≠ .char '\x9b' := by rintro rfl; exact absurd hc (by decide)
  simp only [first, h1, h2, h3, hc, if_false, if_true]

/-- A code point that starts no sequence and no text is a token of its own, whatever follows. -/
theorem first_plain {c : Point} (cs : Text) (h1 : c ≠ esc) (h2 : c ≠ .char '\x9d')
    (h3 : c ≠ .char '\x9b') (hc : isPrintable c = false) : first c cs = ((first c []).1, cs) := by
  simp only [first, h1, h2, h3, hc, if_false, Bool.false_eq_true]
  split
  · rfl
  · split
    · rfl
    · split <;> rfl

/-! ### Appending after a whole sequence -/

theorem takeWhile_append_of_dropWhile {p : Point → Bool} {xs : Text} (ys : Text)
    (h : xs.dropWhile p ≠ []) : (xs ++ ys).takeWhile p = xs.takeWhile p := by
  have hl : (xs.takeWhile p).length + (xs.dropWhile p).length = xs.length := by
    rw [← List.length_append, List.takeWhile_append_dropWhile]
  have hd : 0 < (xs.dropWhile p).length := List.length_pos_iff.mpr h
  rw [List.takeWhile_append, if_neg (by omega)]

theorem dropWhile_append_of_dropWhile {p : Point → Bool} {xs : Text} (ys : Text)
    (h : xs.dropWhile p ≠ []) : (xs ++ ys).dropWhile p = xs.dropWhile p ++ ys := by
  rw [List.dropWhile_append, if_neg (by simpa using h)]

theorem commandBody_append {cs p rest : Text} (b : Text) (h : commandBody cs = some (p, rest)) :
    commandBody (cs ++ b) = some (p, rest ++ b) := by
  unfold commandBody at h ⊢
  split at h
  · rename_i x r hd
    simp only [Option.some.injEq, Prod.mk.injEq] at h
    obtain ⟨rfl, rfl⟩ := h
    have hne : cs.dropWhile (· != bel) ≠ [] := by rw [hd]; exact List.cons_ne_nil _ _
    rw [dropWhile_append_of_dropWhile b hne, hd, List.cons_append,
      takeWhile_append_of_dropWhile b hne]
  · simp at h

theorem controlBody_append {cs ps is rest : Text} {f : Point} (b : Text)
    (h : controlBody cs = some (ps, is, f, rest)) :
    controlBody (cs ++ b) = some (ps, is, f, rest ++ b) := by
  unfold controlBody at h ⊢
  simp only at h ⊢
  split at h
  · rename_i f' r hd
    split at h
    · rename_i hf
      simp only [Option.some.injEq, Prod.mk.injEq] at h
      obtain ⟨rfl, rfl, rfl, rfl⟩ := h
      have hne : (cs.dropWhile isParam).dropWhile isIntermediate ≠ [] := by
        rw [hd]; exact List.cons_ne_nil _ _
      have hne' : cs.dropWhile isParam ≠ [] := by
        intro h0; rw [h0] at hne; exact hne rfl
      rw [dropWhile_append_of_dropWhile b hne', takeWhile_append_of_dropWhile b hne',
        dropWhile_append_of_dropWhile b hne, takeWhile_append_of_dropWhile b hne, hd,
        List.cons_append]
      simp only [hf, if_true]
    · simp at h
  · simp at h


/-! ### What the tokenizer admits -/

/-- A token as the tokenizer reads it: text is a run of printable characters, and the parts of
a control sequence lie in their classes. -/
def Admitted : Token → Prop
  | text run => ∀ p ∈ run, isPrintable p = true
  | control _ ps is f =>
    (∀ p ∈ ps, isParam p = true) ∧ (∀ p ∈ is, isIntermediate p = true) ∧ isFinal f = true
  | _ => True

theorem of_mem_takeWhile {p : Point → Bool} {xs : Text} {q : Point}
    (h : q ∈ xs.takeWhile p) : p q = true :=
  List.all_eq_true.mp List.all_takeWhile q h

theorem admitted_controlBody {cs ps is rest : Text} {f : Point}
    (h : controlBody cs = some (ps, is, f, rest)) :
    (∀ p ∈ ps, isParam p = true) ∧ (∀ p ∈ is, isIntermediate p = true) ∧ isFinal f = true := by
  unfold controlBody at h
  simp only at h
  split at h
  · split at h
    · rename_i hf
      simp only [Option.some.injEq, Prod.mk.injEq] at h
      obtain ⟨rfl, rfl, rfl, rfl⟩ := h
      exact ⟨fun _ hp => of_mem_takeWhile hp, fun _ hp => of_mem_takeWhile hp, hf⟩
    · simp at h
  · simp at h

theorem admitted_first (c : Point) (cs : Text) : (first c cs).1.Admitted := by
  by_cases hc : c = esc
  · subst hc
    cases cs with
    | nil => rw [first_esc_nil]; trivial
    | cons d r =>
      by_cases h1 : d = .char ']'
      · subst h1
        cases hb : commandBody r with
        | none => rw [first_esc_command_none hb]; trivial
        | some pr => rw [first_esc_command hb]; trivial
      · by_cases h2 : d = .char '['
        · subst h2
          cases hb : controlBody r with
          | none => rw [first_esc_control_none hb]; trivial
          | some q =>
            obtain ⟨ps, is, f, rest⟩ := q
            rw [first_esc_control hb]
            exact admitted_controlBody hb
        · rw [first_esc_other r h1 h2]
          split <;> trivial
  · by_cases h9d : c = .char '\x9d'
    · subst h9d
      cases hb : commandBody cs with
      | none => rw [first_command8_none hb]; trivial
      | some pr => rw [first_command8 hb]; trivial
    · by_cases h9b : c = .char '\x9b'
      · subst h9b
        cases hb : controlBody cs with
        | none => rw [first_control8_none hb]; trivial
        | some q =>
          obtain ⟨ps, is, f, rest⟩ := q
          rw [first_control8 hb]
          exact admitted_controlBody hb
      · cases hp : isPrintable c with
        | true =>
          rw [first_printable cs hp]
          intro q hq
          rcases List.mem_cons.mp hq with rfl | hq
          · exact hp
          · exact of_mem_takeWhile hq
        | false =>
          rw [first_plain cs hc h9d h9b hp]
          simp only [first, hc, h9d, h9b, hp, if_false, Bool.false_eq_true]
          split
          · trivial
          · split
            · trivial
            · split <;> trivial

/-- Every token the tokenizer reads is admitted. -/
theorem admitted_scan (d : Text) : ∀ tok ∈ scan d, tok.Admitted := by
  induction d using scan.induct with
  | case1 => simp [scan]
  | case2 c cs _ ih =>
    intro tok htok
    rw [scan] at htok
    rcases List.mem_cons.mp htok with rfl | htok
    · exact admitted_first c cs
    · exact ih tok htok

/-! ### The spelling of a control sequence -/

theorem not_isParam_of_isIntermediate {p : Point} (h : isIntermediate p = true) :
    isParam p = false := by
  simp only [isIntermediate, isParam, Bool.and_eq_true, decide_eq_true_eq] at h ⊢
  simp only [Bool.and_eq_false_iff, decide_eq_false_iff_not]
  omega

theorem not_isParam_of_isFinal {p : Point} (h : isFinal p = true) : isParam p = false := by
  simp only [isFinal, isParam, Bool.and_eq_true, decide_eq_true_eq] at h ⊢
  simp only [Bool.and_eq_false_iff, decide_eq_false_iff_not]
  omega

theorem not_isIntermediate_of_isFinal {p : Point} (h : isFinal p = true) :
    isIntermediate p = false := by
  simp only [isFinal, isIntermediate, Bool.and_eq_true, decide_eq_true_eq] at h ⊢
  simp only [Bool.and_eq_false_iff, decide_eq_false_iff_not]
  omega

theorem takeWhile_run {p : Point → Bool} {xs : Text} (q : Point) (ys : Text)
    (hxs : ∀ a ∈ xs, p a = true) (hq : p q = false) :
    (xs ++ q :: ys).takeWhile p = xs ∧ (xs ++ q :: ys).dropWhile p = q :: ys := by
  rw [List.takeWhile_append_of_pos hxs, List.dropWhile_append_of_pos hxs,
    List.takeWhile_cons_of_neg (by simp [hq]), List.dropWhile_cons_of_neg (by simp [hq]),
    List.append_nil]
  exact ⟨rfl, rfl⟩

theorem controlBody_spelling {ps is : Text} {f : Point} (rest : Text)
    (hps : ∀ p ∈ ps, isParam p = true) (his : ∀ p ∈ is, isIntermediate p = true)
    (hf : isFinal f = true) : controlBody (ps ++ is ++ f :: rest) = some (ps, is, f, rest) := by
  have hfirst : ((is ++ f :: rest).takeWhile isParam = []) ∧
      (is ++ f :: rest).dropWhile isParam = is ++ f :: rest := by
    cases is with
    | nil =>
      exact ⟨List.takeWhile_cons_of_neg (by simp [not_isParam_of_isFinal hf]),
        List.dropWhile_cons_of_neg (by simp [not_isParam_of_isFinal hf])⟩
    | cons a as =>
      have ha := not_isParam_of_isIntermediate (his a List.mem_cons_self)
      exact ⟨List.takeWhile_cons_of_neg (by simp [ha]), List.dropWhile_cons_of_neg (by simp [ha])⟩
  obtain ⟨hi1, hi2⟩ := takeWhile_run f rest his (not_isIntermediate_of_isFinal hf)
  unfold controlBody
  rw [List.append_assoc, List.takeWhile_append_of_pos hps, List.dropWhile_append_of_pos hps,
    hfirst.1, hfirst.2]
  simp only [hi1, hi2, List.append_nil, hf, if_true]

/-- The spelling of an admitted control sequence is read as that sequence alone. -/
theorem scan_spelling_control (i : Introducer) {ps is : Text} {f : Point}
    (h : (control i ps is f).Admitted) : scan (spelling (control i ps is f)) = [control i ps is f] := by
  obtain ⟨hps, his, hf⟩ := h
  have hb := controlBody_spelling [] hps his hf
  cases i with
  | sevenBit =>
    show scan (esc :: .char '[' :: (ps ++ is ++ [f])) = _
    rw [scan, first_esc_control hb, scan]
  | eightBit =>
    show scan (.char '\x9b' :: (ps ++ is ++ [f])) = _
    rw [scan, first_control8 hb, scan]

end TermSnap.Token
