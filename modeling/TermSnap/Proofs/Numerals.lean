import Mathlib.Data.List.TakeWhile
import TermSnap.Proofs.Tokens
import TermSnap.Terminal.Control
/-!
# Numerals read back

The decimal numeral of a natural number of at most `Text.digitLimit` digits reads back as that
number, and numerals joined by semicolons split back into those numerals, as the fields of a
positioning and as the digit runs of a graphic rendition.
-/

namespace TermSnap

namespace Text

theorem ofString_append (a b : String) :
    Text.ofString (a ++ b) = Text.ofString a ++ Text.ofString b := by
  simp [Text.ofString]

theorem ofString_toString (n : Nat) :
    Text.ofString (toString n) = (Nat.toDigits 10 n).map Point.char := by
  simp [Text.ofString]

theorem isBlank_digit {c : Char} (h : c.isDigit = true) : isBlank (.char c) = false := by
  simp only [Char.isDigit, Bool.and_eq_true, decide_eq_true_eq] at h
  have h0 : 48 ≤ c.toNat := by
    have := h.1; simp [UInt32.le_iff_toNat_le] at this; exact this
  have h9 : c.toNat < 58 := by
    have := h.2; simp [UInt32.le_iff_toNat_le] at this; omega
  simp only [isBlank, blankRanges, List.any_cons, List.any_nil, Point.code]
  grind

theorem isDigit_char {c : Char} (h : c.isDigit = true) : isDigit (.char c) = true := by
  simp [isDigit, digitValue?_ascii c h]

theorem underscoresBetween_of_digits {cs : Text} (h : ∀ p ∈ cs, isDigit p = true) :
    underscoresBetween cs = true := by
  induction cs with
  | nil => rfl
  | cons p rest ih =>
    have hp : p ≠ .char '_' := by
      rintro rfl
      exact absurd (h _ List.mem_cons_self) (by decide)
    have ih' := ih fun q hq => h q (List.mem_cons_of_mem _ hq)
    cases rest with
    | nil => simp [underscoresBetween, hp]
    | cons q more =>
      unfold underscoresBetween
      split <;> simp_all

theorem filterMap_digitValue? {cs : List Char} (h : ∀ c ∈ cs, c.isDigit = true) :
    (cs.map Point.char).filterMap digitValue? = cs.map fun c => c.toNat - 48 := by
  induction cs with
  | nil => rfl
  | cons c rest ih =>
    rw [List.map_cons, List.filterMap_cons, digitValue?_ascii c (h c List.mem_cons_self),
      ih fun d hd => h d (List.mem_cons_of_mem _ hd), List.map_cons]

/-- The decimal numeral of a natural number of at most `digitLimit` digits reads back as it. -/
theorem readInt_toString (n : Nat) (h : (toString n).length ≤ digitLimit) :
    readInt (Text.ofString (toString n)) = .ok n := by
  have hdig : ∀ c ∈ Nat.toDigits 10 n, c.isDigit = true := fun c hc =>
    Nat.isDigit_of_mem_toDigits (by decide) (by decide) hc
  have hlen : (Nat.toDigits 10 n).length ≤ digitLimit := by
    rwa [Nat.toString_eq_ofList_toDigits, String.length_ofList] at h
  -- the digits' values, most significant first, make `n` again
  have hval : digitsValue ((Nat.toDigits 10 n).map fun c => c.toNat - 48) = n := by
    have h10 := @Nat.ofDigitChars_ten_toDigits n
    rw [Nat.ofDigitChars_eq_foldl] at h10
    rw [digitsValue, List.foldl_map]
    exact h10
  have hfm := filterMap_digitValue? hdig
  have hpts : ∀ p ∈ (Nat.toDigits 10 n).map Point.char, isDigitOrUnderscore p = true := by
    simp only [List.mem_map]
    rintro p ⟨c, hc, rfl⟩
    simp [isDigitOrUnderscore, isDigit_char (hdig c hc)]
  have hund : underscoresBetween ((Nat.toDigits 10 n).map Point.char) = true :=
    underscoresBetween_of_digits (by
      simp only [List.mem_map]
      rintro p ⟨c, hc, rfl⟩
      exact isDigit_char (hdig c hc))
  rw [ofString_toString]
  obtain ⟨d, ds, hds⟩ : ∃ d ds, Nat.toDigits 10 n = d :: ds :=
    List.exists_cons_of_ne_nil Nat.toDigits_ne_nil
  rw [hds] at hdig hlen hval hfm hpts hund ⊢
  -- the numeral starts with a digit: no blank, sign or underscore before it
  have hd := hdig d List.mem_cons_self
  have hblank : ((d :: ds).map Point.char).dropWhile isBlank = (d :: ds).map Point.char :=
    List.dropWhile_cons_of_neg (by simp [isBlank_digit hd])
  have hsign : splitSignText ((d :: ds).map Point.char) = (false, (d :: ds).map Point.char) := by
    have h1 : d ≠ '-' := by rintro rfl; exact absurd hd (by decide)
    have h2 : d ≠ '+' := by rintro rfl; exact absurd hd (by decide)
    simp [splitSignText, h1, h2]
  have hhead : ((d :: ds).map Point.char).head? ≠ some (.char '_') := by
    have h3 : d ≠ '_' := by rintro rfl; exact absurd hd (by decide)
    simp [h3]
  unfold readInt
  simp only [hblank, hsign, List.takeWhile_eq_self_iff.mpr hpts, List.dropWhile_eq_nil_iff.mpr hpts,
    hfm, hund, hval]
  rw [if_neg (by simpa using hhead), if_neg (by simpa using hlen), if_neg (by simp)]
  rfl

/-- A numeral is a nonempty run of ASCII digits, each a parameter character. -/
theorem numeral_cons (n : Nat) : ∃ d ds, Text.ofString (toString n) = d :: ds ∧
    ∀ p ∈ d :: ds, isDigit p = true ∧ Token.isParam p = true := by
  obtain ⟨d, ds, hds⟩ : ∃ d ds, Nat.toDigits 10 n = d :: ds :=
    List.exists_cons_of_ne_nil Nat.toDigits_ne_nil
  refine ⟨.char d, ds.map Point.char, by rw [ofString_toString, hds, List.map_cons], ?_⟩
  rw [← List.map_cons, ← hds]
  simp only [List.mem_map]
  rintro p ⟨c, hc, rfl⟩
  have hdig := Nat.isDigit_of_mem_toDigits (by decide) (by decide) hc
  refine ⟨isDigit_char hdig, ?_⟩
  simp only [Char.isDigit, Bool.and_eq_true, decide_eq_true_eq] at hdig
  have h0 : 48 ≤ c.toNat := by
    have := hdig.1; simp [UInt32.le_iff_toNat_le] at this; exact this
  have h9 : c.toNat < 58 := by
    have := hdig.2; simp [UInt32.le_iff_toNat_le] at this; omega
  simp only [Token.isParam, Point.code]
  grind

end Text

theorem readCount_toString (n : Nat) (h : (toString n).length ≤ Text.digitLimit) :
    readCount (Text.ofString (toString n)) = .ok n := by
  rw [readCount, Text.readInt_toString n h]
  rfl

/-! ### Numerals in parameter texts -/

section

variable {d : Point} {ds : Text}

theorem digitRuns_eq (cs : Text) : digitRuns cs =
    match cs.dropWhile (fun c => !Text.isDigit c) with
    | [] => []
    | c :: rest =>
      (c :: rest.takeWhile Text.isDigit) :: digitRuns (rest.dropWhile Text.isDigit) := by
  rw [digitRuns]
  split <;> rename_i heq <;> simp only [heq]

theorem digitRuns_cons_of_not_digit {p : Point} (hp : Text.isDigit p = false) (rest : Text) :
    digitRuns (p :: rest) = digitRuns rest := by
  rw [digitRuns_eq, digitRuns_eq rest, List.dropWhile_cons_of_pos (by simp [hp])]

theorem digitRuns_digits_append (hds : ∀ p ∈ d :: ds, Text.isDigit p = true) {q : Point}
    (hq : Text.isDigit q = false) (rest : Text) :
    digitRuns (d :: ds ++ q :: rest) = (d :: ds) :: digitRuns rest := by
  have hrun := Token.takeWhile_run q rest (fun p hp => hds p (List.mem_cons_of_mem _ hp)) hq
  rw [digitRuns_eq, List.cons_append,
    List.dropWhile_cons_of_neg (by simp [hds d List.mem_cons_self])]
  simp only [hrun.1, hrun.2, digitRuns_cons_of_not_digit hq]

theorem digitRuns_digits (hds : ∀ p ∈ d :: ds, Text.isDigit p = true) :
    digitRuns (d :: ds) = [d :: ds] := by
  have hall : ∀ p ∈ ds, Text.isDigit p = true := fun p hp => hds p (List.mem_cons_of_mem _ hp)
  rw [digitRuns_eq, List.dropWhile_cons_of_neg (by simp [hds d List.mem_cons_self])]
  simp only [List.takeWhile_eq_self_iff.mpr hall, List.dropWhile_eq_nil_iff.mpr hall]
  rw [digitRuns_eq]
  rfl

theorem positionFields_digits_append (hds : ∀ p ∈ d :: ds, Text.isDigit p = true) (rest : Text)
    (hr : ∀ q ∈ rest.head?, Text.isDigit q = false) :
    positionFields (d :: ds ++ rest) = (d :: ds) :: positionFields (skipSemicolon rest) := by
  have hall : ∀ p ∈ ds, Text.isDigit p = true := fun p hp => hds p (List.mem_cons_of_mem _ hp)
  have htake : (ds ++ rest).takeWhile Text.isDigit = ds ∧
      (ds ++ rest).dropWhile Text.isDigit = rest := by
    cases rest with
    | nil =>
      rw [List.append_nil]
      exact ⟨List.takeWhile_eq_self_iff.mpr hall, List.dropWhile_eq_nil_iff.mpr hall⟩
    | cons q more => exact Token.takeWhile_run q more hall (hr q rfl)
  rw [List.cons_append, positionFields, if_pos (hds d List.mem_cons_self), htake.1, htake.2]

end

/-- A numeral then a semicolon: its digits make a field, and the semicolon closes it. -/
theorem positionFields_numeral_semicolon (n : Nat) (rest : Text) :
    positionFields (Text.ofString (toString n) ++ .char ';' :: rest) =
      Text.ofString (toString n) :: positionFields rest := by
  obtain ⟨d, ds, hn, hdig⟩ := Text.numeral_cons n
  rw [hn, positionFields_digits_append (fun p hp => (hdig p hp).1) _ (fun q hq => by
    simp only [List.head?_cons, Option.mem_def, Option.some.injEq] at hq
    subst hq
    decide)]
  rfl

/-- A numeral that ends the parameters makes a field, and the end makes one more, empty. -/
theorem positionFields_numeral (n : Nat) :
    positionFields (Text.ofString (toString n)) = [Text.ofString (toString n), []] := by
  obtain ⟨d, ds, hn, hdig⟩ := Text.numeral_cons n
  have h := positionFields_digits_append (fun p hp => (hdig p hp).1) [] (fun q hq => by cases hq)
  rw [List.append_nil] at h
  have hend : positionFields (skipSemicolon []) = [[]] := by
    show positionFields [] = _
    rw [positionFields]
  rw [hn, h, hend]

theorem digitRuns_numeral_semicolon (n : Nat) (rest : Text) :
    digitRuns (Text.ofString (toString n) ++ .char ';' :: rest) =
      Text.ofString (toString n) :: digitRuns rest := by
  obtain ⟨d, ds, hn, hdig⟩ := Text.numeral_cons n
  rw [hn]
  exact digitRuns_digits_append (fun p hp => (hdig p hp).1) (by decide) rest

theorem digitRuns_numeral (n : Nat) :
    digitRuns (Text.ofString (toString n)) = [Text.ofString (toString n)] := by
  obtain ⟨d, ds, hn, hdig⟩ := Text.numeral_cons n
  rw [hn]
  exact digitRuns_digits fun p hp => (hdig p hp).1

/-- Numerals joined by semicolons are read as those numerals. -/
theorem digitRuns_joined : ∀ ns : List Nat,
    digitRuns ((Text.ofString ";").intercalate (ns.map fun n => Text.ofString (toString n))) =
      ns.map fun n => Text.ofString (toString n)
  | [] => by
    rw [List.map_nil, List.intercalate_nil, digitRuns_eq]
    rfl
  | [n] => by
    rw [List.map_singleton, List.intercalate_singleton]
    exact digitRuns_numeral n
  | n :: m :: rest => by
    have hsep : Text.ofString ";" = [.char ';'] := rfl
    have ih := digitRuns_joined (m :: rest)
    rw [List.map_cons, hsep] at ih
    rw [List.map_cons, List.map_cons, List.intercalate_cons_cons, hsep, List.append_assoc,
      List.singleton_append, digitRuns_numeral_semicolon, ih]

/-- Short numerals are read as their numbers. -/
theorem mapM_readCount_numerals {ns : List Nat}
    (h : ∀ n ∈ ns, (toString n).length ≤ Text.digitLimit) :
    (ns.map fun n => Text.ofString (toString n)).mapM readCount =
      .ok (ns.map fun n : Nat => (n : Int)) := by
  induction ns with
  | nil => rfl
  | cons n rest ih =>
    rw [List.map_cons, List.mapM_cons, readCount_toString n (h n List.mem_cons_self),
      ih fun m hm => h m (List.mem_cons_of_mem _ hm)]
    rfl

/-- The points of numerals joined by semicolons are parameter points. -/
theorem isParam_joined : ∀ (ns : List Nat),
    ∀ q ∈ (Text.ofString ";").intercalate (ns.map fun n => Text.ofString (toString n)),
      Token.isParam q = true
  | [] => nofun
  | [n] => by
    obtain ⟨d, ds, hn, hdig⟩ := Text.numeral_cons n
    rw [List.map_singleton, List.intercalate_singleton, hn]
    exact fun q hq => (hdig q hq).2
  | n :: m :: rest => by
    obtain ⟨d, ds, hn, hdig⟩ := Text.numeral_cons n
    have ih := isParam_joined (m :: rest)
    rw [List.map_cons] at ih
    rw [List.map_cons, List.map_cons, List.intercalate_cons_cons]
    intro q hq
    rcases List.mem_append.mp hq with hq | hq
    · rcases List.mem_append.mp hq with hq | hq
      · rw [hn] at hq
        exact (hdig q hq).2
      · rw [List.eq_of_mem_singleton hq]
        decide
    · exact ih q hq

end TermSnap
