/-!
# Code points and text

Text is a list of code points: characters, or surrogates U+D800 to U+DFFF standing alone, which a
JSON `\u` escape can name and which are kept like any other point (`code_inj`).
-/

namespace TermSnap

/-- A code point: a character, or a surrogate code point `U+D800 + offset` standing alone. -/
inductive Point where
  | char (c : Char)
  | surrogate (offset : Fin 0x800)
deriving DecidableEq, Repr, Inhabited

abbrev Text := List Point

namespace Point

/-- The number of a code point. -/
def code : Point → Nat
  | char c => c.toNat
  | surrogate k => 0xD800 + k.val

theorem surrogate_offset_lt {n : Nat} (h : 0xD800 ≤ n ∧ n < 0xE000) : n - 0xD800 < 0x800 := by
  omega

/-- The code point with number `n`, for `n` a surrogate or a character. -/
def ofCode (n : Nat) : Point :=
  if h : 0xD800 ≤ n ∧ n < 0xE000 then surrogate ⟨n - 0xD800, surrogate_offset_lt h⟩
  else char (Char.ofNat n)

theorem char_code_not_surrogate (c : Char) : ¬ (0xD800 ≤ c.toNat ∧ c.toNat < 0xE000) := by
  have h := c.valid
  simp only [UInt32.isValidChar, Nat.isValidChar] at h
  show ¬ (0xD800 ≤ c.val.toNat ∧ c.val.toNat < 0xE000)
  omega

/-- Points are equal exactly when their numbers are. -/
theorem code_inj {p q : Point} (h : p.code = q.code) : p = q := by
  cases p with
  | char c =>
    cases q with
    | char d => exact congrArg char (Char.ext (UInt32.toNat_inj.mp h))
    | surrogate k =>
      have := char_code_not_surrogate c
      simp only [code] at h
      omega
  | surrogate k =>
    cases q with
    | char d =>
      have := char_code_not_surrogate d
      simp only [code] at h
      omega
    | surrogate j =>
      simp only [code] at h
      exact congrArg surrogate (Fin.ext (by omega))

def is (p : Point) (c : Char) : Bool := p == char c

end Point

namespace Text

def ofString (s : String) : Text := s.toList.map Point.char

/-- A string of the text, each surrogate written as the replacement character U+FFFD. -/
def toStringLossy (t : Text) : String :=
  String.ofList (t.map fun
    | .char c => c
    | .surrogate _ => '�')

theorem toStringLossy_ofString (s : String) : toStringLossy (ofString s) = s := by
  simp only [toStringLossy, ofString, List.map_map]
  have : ((fun p : Point => match p with
      | .char c => c
      | .surrogate _ => '�') ∘ Point.char) = id := rfl
  rw [this, List.map_id, String.ofList_toList]

end Text

end TermSnap
