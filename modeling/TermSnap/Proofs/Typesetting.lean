import Mathlib.Data.List.Chain
import TermSnap.Proofs.Numerals
import TermSnap.Proofs.TexReading
import TermSnap.Proofs.WellFormed
/-!
# Typesetting a rendered screen

What a LaTeX document typesets from the LaTeX rendering of a screen. The escaping leaves
`% { } & ^ ~` special, `\textbackslash` before a letter is one undefined command, and `\\` takes a
star after it; but for these the page is the screen's glyphs row by row (`latex_typesets_screen`).
The proof reads one mark at a time between a few resting states (`Tex.reads_mark`).
-/

namespace TermSnap

/-- The pieces a mark should typeset: nothing for a colour, its glyph, or a line break. -/
def Mark.pieces : Mark → List Tex.Piece
  | .colour _ => []
  | .glyph g => g.toText.map .glyph
  | .newline => [.lineBreak]

def Mark.glyphIs (p : Char → Bool) : Mark → Bool
  | .glyph (.str [.char c]) => p c
  | _ => false

/-- The page a screen should make: its rows' glyphs, each row followed by a line break. -/
def Screen.page (s : Screen) : List Tex.Piece :=
  s.rows.flatMap fun row => (row.flatMap fun c => c.glyph.toText).map .glyph ++ [.lineBreak]

namespace Tex

/-- The characters that LaTeX output leaves special: `% { } & ^ ~`. -/
def unescaped : List Char := ['%', '\x7b', '\x7d', '&', '^', '~']

def leftSpecial : Value → Bool
  | .str [.char c] => unescaped.contains c
  | _ => false

/-- A mark that LaTeX output spells as itself: a colour change, a glyph of one printable character
not left special, or a row end. -/
def Spellable : Mark → Prop
  | .colour c => c.isColour = true
  | .glyph g => ∃ c, g = .str [.char c] ∧ Token.isPrintable (.char c) = true ∧ c ∉ unescaped
  | .newline => True

/-- Whether mark `m'` may follow mark `m`: no letter right after a backslash, and no star right
after a row end. -/
def Follows (m m' : Mark) : Bool :=
  !(m.glyphIs (· == '\\') && m'.glyphIs Char.isAlpha) &&
    !(m matches .newline && m'.glyphIs (· == '*'))

/-! ### Reading in both stages -/

def readFrom (κ : Lexer × Setter) (t : Text) : Option (List Piece × (Lexer × Setter)) :=
  (setFrom κ.2 (lexFrom κ.1 t).1).map fun r => (r.1, ((lexFrom κ.1 t).2, r.2))

theorem readFrom_append {κ κ' κ'' : Lexer × Setter} {a b : Text} {o o' : List Piece}
    (ha : readFrom κ a = some (o, κ')) (hb : readFrom κ' b = some (o', κ'')) :
    readFrom κ (a ++ b) = some (o ++ o', κ'') := by
  obtain ⟨⟨o₁, S₁⟩, h₁, he₁⟩ := Option.map_eq_some_iff.mp ha
  simp only [Prod.mk.injEq] at he₁
  obtain ⟨rfl, rfl⟩ := he₁
  obtain ⟨⟨o₂, S₂⟩, h₂, he₂⟩ := Option.map_eq_some_iff.mp hb
  simp only [Prod.mk.injEq] at he₂
  obtain ⟨rfl, rfl⟩ := he₂
  simp only [readFrom, lexFrom_append, setFrom_append, h₁, Option.bind_some, h₂, Option.map_some]

def backslashName : Text := Text.ofString "textbackslash"

/-- What the control word TeX's eyes are in typesets once the next character ends it. -/
def Lexer.pending : Lexer → List Piece
  | .word _ => [.glyph (.char '\\')]
  | _ => []

/-- The states reading rests in between two marks: TeX's eyes at the start or middle of a line or
in the name `textbackslash`; typesetting in running text, after a character code or line break. -/
def resting : List (Lexer × Setter) :=
  [(.newLine, .text 0), (.midLine, .text 0), (.newLine, .charEnd 0), (.midLine, .charEnd 0),
    (.newLine, .lineEnd 0 false), (.word backslashName, .text 0),
    (.word backslashName, .charEnd 0), (.word backslashName, .lineEnd 0 false)]

/-- Reading `t` from the resting state `κ` typesets what `κ` has pending and then `ps`, but for
what the resting state `κ'` it leaves has pending. -/
structure Reads (κ : Lexer × Setter) (t : Text) (ps : List Piece) (κ' : Lexer × Setter) :
    Prop where
  typesets : ∃ out, readFrom κ t = some (out, κ') ∧ κ.1.pending ++ ps = out ++ κ'.1.pending
  rests : κ' ∈ resting

theorem Reads.append {κ κ' κ'' : Lexer × Setter} {a b : Text} {ps qs : List Piece}
    (h : Reads κ a ps κ') (h' : Reads κ' b qs κ'') : Reads κ (a ++ b) (ps ++ qs) κ'' := by
  obtain ⟨out, hr, hp⟩ := h.typesets
  obtain ⟨out', hr', hp'⟩ := h'.typesets
  refine ⟨⟨out ++ out', readFrom_append hr hr', ?_⟩, h'.rests⟩
  calc κ.1.pending ++ (ps ++ qs) = out ++ (κ'.1.pending ++ qs) := by
        rw [← List.append_assoc, hp, List.append_assoc]
    _ = out ++ out' ++ κ''.1.pending := by rw [hp', List.append_assoc]

theorem Reads.of_readFrom {κ κ' : Lexer × Setter} {t : Text} {ps : List Piece}
    (h : readFrom κ t = some (κ.1.pending ++ ps, κ')) (hκ' : κ' ∈ resting)
    (hp : κ'.1.pending = []) : Reads κ t ps κ' :=
  ⟨⟨_, h, by rw [hp, List.append_nil]⟩, hκ'⟩

/-! ### One mark at a time -/

def Admits (κ : Lexer × Setter) (m : Mark) : Prop :=
  (κ.1 = .word backslashName → m.glyphIs Char.isAlpha = false) ∧
    (κ = (.newLine, .lineEnd 0 false) → m.glyphIs (· == '*') = false)

theorem admits_midLine (S : Setter) (m : Mark) : Admits (.midLine, S) m :=
  ⟨nofun, nofun⟩

theorem admits_after_backslash (S : Setter) {m : Mark}
    (h : Follows (.glyph (.str [.char '\\'])) m = true) : Admits (.word backslashName, S) m := by
  refine ⟨fun _ => ?_, nofun⟩
  simpa [Follows, Mark.glyphIs] using h

theorem admits_after_newline (S : Setter) {m : Mark} (h : Follows .newline m = true) :
    Admits (.newLine, S) m := by
  refine ⟨nofun, fun _ => ?_⟩
  simpa [Follows, Mark.glyphIs] using h

theorem reads_reset : ∀ κ ∈ resting,
    readFrom κ Format.latex.reset = some (κ.1.pending, (.midLine, .text 0)) := by
  decide

theorem reads_palette_start : ∀ κ ∈ resting,
    readFrom κ (Text.ofString "\\ansicolor\x7b") = some (κ.1.pending, (.midLine, .group 0 0)) := by
  decide

theorem reads_rgb_start : ∀ κ ∈ resting,
    readFrom κ (Text.ofString "\\color[RGB]\x7b") = some (κ.1.pending, (.midLine, .group 0 0)) := by
  decide

theorem reads_newline : ∀ κ ∈ resting,
    readFrom κ Format.latex.newline =
      some (κ.1.pending ++ [.lineBreak], (.newLine, .lineEnd 0 false)) := by
  decide

theorem reads_control_symbol {c : Char} (hc : c = '$' ∨ c = '#') : ∀ κ ∈ resting,
    readFrom κ [.char '\\', .char c] = some (κ.1.pending ++ [.glyph (.char c)], (.midLine, .text 0)) := by
  rcases hc with rfl | rfl <;> decide

theorem reads_braced {c : Char} (hc : c = '[' ∨ c = ']' ∨ c = ' ') : ∀ κ ∈ resting,
    readFrom κ [.char '\x7b', .char c, .char '\x7d'] =
      some (κ.1.pending ++ [.glyph (.char c)], (.midLine, .text 0)) := by
  rcases hc with rfl | rfl | rfl <;> decide

theorem reads_char_code : ∀ κ ∈ resting,
    readFrom κ (Text.ofString "\\char\x60_") =
      some (κ.1.pending ++ [.glyph (.char '_')], (.midLine, .charEnd 0)) := by
  decide

theorem reads_textbackslash : ∀ κ ∈ resting, ∃ S ∈ [Setter.text 0, .charEnd 0, .lineEnd 0 false],
    readFrom κ (Text.ofString "\\textbackslash") = some (κ.1.pending, (.word backslashName, S)) := by
  decide

theorem reads_star : ∀ κ ∈ resting, κ ≠ (.newLine, .lineEnd 0 false) →
    readFrom κ [.char '*'] = some (κ.1.pending ++ [.glyph (.char '*')], (.midLine, .text 0)) := by
  decide

/-! ### Characters typeset as themselves -/

theorem typesetText_char {p : Point} (h : category p = .letter ∨ category p = .other) (d : Nat) :
    typesetText d (.char p) = some ([.glyph p], .text d) := by
  rcases h with h | h <;> simp [typesetText, h]

theorem Lexer.onLine_char {p : Point} (h : category p = .letter ∨ category p = .other)
    (st : Lexer) : st.onLine p = ([.char p], .midLine) := by
  rcases h with h | h <;> simp [Lexer.onLine, h]

theorem category_printable : ∀ n < 95,
    (category (.char (Char.ofNat (32 + n))) = .letter → (Char.ofNat (32 + n)).isAlpha = true) ∧
    (Char.ofNat (32 + n) ∉ unescaped → Char.ofNat (32 + n) ∉ ['$', '#', '[', ']', ' ', '\\', '_'] →
      category (.char (Char.ofNat (32 + n))) = .letter ∨
        category (.char (Char.ofNat (32 + n))) = .other) := by
  decide

theorem eq_ofNat_of_printable {c : Char} (h : Token.isPrintable (.char c) = true) :
    ∃ n < 95, c = Char.ofNat (32 + n) := by
  simp only [Token.isPrintable, Point.code, Bool.and_eq_true] at h
  have h32 : 32 ≤ c.toNat := of_decide_eq_true h.1
  have h126 : c.toNat ≤ 126 := of_decide_eq_true h.2
  exact ⟨c.toNat - 32, by omega, by rw [Nat.add_sub_cancel' h32, Char.ofNat_toNat]⟩

theorem isAlpha_of_letter {c : Char} (hpr : Token.isPrintable (.char c) = true)
    (h : category (.char c) = .letter) : c.isAlpha = true := by
  obtain ⟨n, hn, rfl⟩ := eq_ofNat_of_printable hpr
  exact (category_printable n hn).1 h

theorem category_plain {c : Char} (hpr : Token.isPrintable (.char c) = true) (hu : c ∉ unescaped)
    (hs : ¬(c = '$' ∨ c = '#')) (hb : ¬(c = '[' ∨ c = ']' ∨ c = ' ')) (hbs : c ≠ '\\')
    (hus : c ≠ '_') : category (.char c) = .letter ∨ category (.char c) = .other := by
  obtain ⟨n, hn, rfl⟩ := eq_ofNat_of_printable hpr
  refine (category_printable n hn).2 hu ?_
  simp only [List.mem_cons, List.not_mem_nil, or_false, not_or] at hs hb ⊢
  exact ⟨hs.1, hs.2, hb.1, hb.2.1, hb.2.2, hbs, hus⟩

theorem resting_lexer : ∀ κ ∈ resting,
    κ.1 = .newLine ∨ κ.1 = .midLine ∨ κ.1 = .word backslashName := by
  decide

theorem resting_setter : ∀ κ ∈ resting, κ.2 ∈ [Setter.text 0, .charEnd 0, .lineEnd 0 false] := by
  decide

theorem step_backslash_resting : ∀ S ∈ [Setter.text 0, .charEnd 0, .lineEnd 0 false],
    S.step (.word backslashName) = some ([.glyph (.char '\\')], .text 0) := by
  decide

theorem readFrom_plain {κ : Lexer × Setter} (hκ : κ ∈ resting) {c : Char}
    (hcat : category (.char c) = .letter ∨ category (.char c) = .other) (hstar : c ≠ '*')
    (hbr : c ≠ '[') (hword : κ.1 = .word backslashName → category (.char c) ≠ .letter) :
    readFrom κ [.char c] = some (κ.1.pending ++ [.glyph (.char c)], (.midLine, .text 0)) := by
  obtain ⟨L, S⟩ := κ
  have hS := resting_setter _ hκ
  have hset : S.step (.char (.char c)) = some ([.glyph (.char c)], .text 0) := by
    simp only [List.mem_cons, List.not_mem_nil, or_false] at hS
    rcases hS with rfl | rfl | rfl <;> simp [Setter.step, typesetText_char hcat, hstar, hbr]
  rcases resting_lexer _ hκ with rfl | rfl | rfl
  · simp [readFrom, lexFrom, Lexer.step, Lexer.onLine_char hcat, setFrom, hset, Lexer.pending]
  · simp [readFrom, lexFrom, Lexer.step, Lexer.onLine_char hcat, setFrom, hset, Lexer.pending]
  · -- the character ends the name, which is typeset first
    have hother : category (.char c) = .other := hcat.resolve_left (hword rfl)
    simp [readFrom, lexFrom, Lexer.step, hother, Lexer.onLine_char hcat, setFrom,
      step_backslash_resting S hS, Setter.step.eq_1, typesetText_char hcat, Lexer.pending]

/-! ### Colour arguments -/

theorem readFrom_argument {L : Lexer} (hL : L = .midLine ∨ L = .skipBlanks) {t : Text}
    (ht : ∀ p ∈ t, category p = .other ∨ category p = .space) (d : Nat) :
    readFrom (L, .group d 0) (t ++ [.char '\x7d']) = some ([], (.midLine, .text d)) := by
  induction t generalizing L with
  | nil => rcases hL with rfl | rfl <;> rfl
  | cons p ps ih =>
    -- one character keeps the argument open, in the middle of a line or skipping blanks
    have hstep : ∃ L', (L' = .midLine ∨ L' = .skipBlanks) ∧
        readFrom (L, .group d 0) [p] = some ([], (L', .group d 0)) := by
      rcases ht p List.mem_cons_self with hp | hp
      · have hopen : p ≠ .char '\x7b' := by rintro rfl; exact absurd hp (by decide)
        have hclose : p ≠ .char '\x7d' := by rintro rfl; exact absurd hp (by decide)
        refine ⟨.midLine, .inl rfl, ?_⟩
        rcases hL with rfl | rfl <;>
          simp [readFrom, lexFrom, Lexer.step, Lexer.onLine_char (.inr hp), setFrom, Setter.step,
            hopen, hclose]
      · refine ⟨.skipBlanks, .inr rfl, ?_⟩
        rcases hL with rfl | rfl <;>
          simp [readFrom, lexFrom, Lexer.step, Lexer.onLine, hp, setFrom, Setter.step]
    obtain ⟨L', hL', hr⟩ := hstep
    have hrest := ih hL' fun q hq => ht q (List.mem_cons_of_mem _ hq)
    simpa using readFrom_append hr hrest

theorem category_digit {c : Char} (h : c.isDigit = true) : category (.char c) = .other := by
  simp only [Char.isDigit, Bool.and_eq_true, decide_eq_true_eq] at h
  have h0 : 48 ≤ c.toNat := by
    have := h.1; simp [UInt32.le_iff_toNat_le] at this; exact this
  have h9 : c.toNat ≤ 57 := by
    have := h.2; simp [UInt32.le_iff_toNat_le] at this; exact this
  -- a digit is one of ten characters
  obtain ⟨k, hk, rfl⟩ : ∃ k, k < 10 ∧ c = Char.ofNat (48 + k) :=
    ⟨c.toNat - 48, by omega, by rw [Nat.add_sub_cancel' h0, Char.ofNat_toNat]⟩
  revert k
  decide

theorem category_numeral {n : Int} (hn : 0 ≤ n) :
    ∀ p ∈ Text.ofString (toString n), category p = .other := by
  obtain ⟨k, rfl⟩ := Int.eq_ofNat_of_zero_le hn
  rw [show toString (k : Int) = toString k from rfl, Text.ofString_toString]
  simp only [List.mem_map]
  rintro p ⟨c, hc, rfl⟩
  exact category_digit (Nat.isDigit_of_mem_toDigits (by decide) (by decide) hc)

theorem readFrom_palette {κ : Lexer × Setter} (hκ : κ ∈ resting) {n : Int} (hn : 0 ≤ n) :
    readFrom κ (Format.latex.palette (Text.ofString (toString n))) =
      some (κ.1.pending, (.midLine, .text 0)) := by
  have harg := readFrom_argument (.inl rfl) (fun p hp => .inl (category_numeral hn p hp)) 0
  have hclose : Text.ofString "\x7d" = [.char '\x7d'] := rfl
  simpa [Format.latex, List.append_assoc, hclose] using
    readFrom_append (reads_palette_start κ hκ) harg

theorem readFrom_rgb {κ : Lexer × Setter} (hκ : κ ∈ resting) {r g b : Int} (hr : 0 ≤ r)
    (hg : 0 ≤ g) (hb : 0 ≤ b) :
    readFrom κ (Format.latex.rgb (Value.int r).toText (Value.int g).toText (Value.int b).toText) =
      some (κ.1.pending, (.midLine, .text 0)) := by
  have hsep : ∀ p ∈ Text.ofString ", ", category p = .other ∨ category p = .space := by decide
  have hinner : ∀ p ∈ Text.ofString (toString r) ++ Text.ofString ", " ++
      Text.ofString (toString g) ++ Text.ofString ", " ++ Text.ofString (toString b),
      category p = .other ∨ category p = .space := by
    simp only [List.mem_append]
    rintro p ((((hp | hp) | hp) | hp) | hp)
    · exact .inl (category_numeral hr p hp)
    · exact hsep p hp
    · exact .inl (category_numeral hg p hp)
    · exact hsep p hp
    · exact .inl (category_numeral hb p hp)
  have harg := readFrom_argument (.inl rfl) hinner 0
  have hclose : Text.ofString "\x7d" = [.char '\x7d'] := rfl
  simpa [Format.latex, Value.toText, Value.repr, List.append_assoc, hclose] using
    readFrom_append (reads_rgb_start κ hκ) harg

/-! ### Marks -/

theorem latexGlyph_char (c : Char) : Format.latexGlyph (.str [.char c]) = .ok
    (if c = '$' ∨ c = '#' then [.char '\\', .char c]
    else if c = '[' ∨ c = ']' ∨ c = ' ' then [.char '\x7b', .char c, .char '\x7d']
    else if c = '\\' then Text.ofString "\\textbackslash"
    else if c = '_' then Text.ofString "\\char\x60_"
    else [.char c]) := by
  simp [Format.latexGlyph, Value.unhashable?, Value.isText, Value.toText, Text.ofString, or_assoc]

theorem reads_glyph {κ : Lexer × Setter} (hκ : κ ∈ resting) {c : Char}
    (hpr : Token.isPrintable (.char c) = true) (hu : c ∉ unescaped)
    (hadm : Admits κ (.glyph (.str [.char c]))) :
    ∃ t κ', Format.latexGlyph (.str [.char c]) = .ok t ∧ Reads κ t [.glyph (.char c)] κ' ∧
      (κ'.1 = .midLine ∨ c = '\\' ∧ κ'.1 = .word backslashName) := by
  rw [latexGlyph_char]
  split_ifs with hs hb hbs hus
  · exact ⟨_, _, rfl, .of_readFrom (reads_control_symbol hs κ hκ) (by decide) rfl, .inl rfl⟩
  · exact ⟨_, _, rfl, .of_readFrom (reads_braced hb κ hκ) (by decide) rfl, .inl rfl⟩
  · subst hbs
    obtain ⟨S, hS, hr⟩ := reads_textbackslash κ hκ
    refine ⟨_, (.word backslashName, S), rfl, ⟨⟨_, hr, rfl⟩, ?_⟩, .inr ⟨rfl, rfl⟩⟩
    simp only [List.mem_cons, List.not_mem_nil, or_false] at hS
    rcases hS with rfl | rfl | rfl <;> decide
  · subst hus
    exact ⟨_, _, rfl, .of_readFrom (reads_char_code κ hκ) (by decide) rfl, .inl rfl⟩
  · refine ⟨_, (.midLine, .text 0), rfl, ?_, .inl rfl⟩
    by_cases hstar : c = '*'
    · subst hstar
      refine .of_readFrom (reads_star κ hκ fun h => ?_) (by decide) rfl
      exact absurd (hadm.2 h) (by decide)
    · have hcat := category_plain hpr hu hs hb hbs hus
      have hbr : c ≠ '[' := fun h => hb (.inl h)
      refine .of_readFrom (readFrom_plain hκ hcat hstar hbr fun hw hl => ?_) (by decide) rfl
      have hα := isAlpha_of_letter hpr hl
      have := hadm.1 hw
      simp [Mark.glyphIs, hα] at this

theorem reads_colour {κ : Lexer × Setter} (hκ : κ ∈ resting) {c : Value}
    (hc : c.isColour = true) : ∃ t, Format.latex.colour c = .ok t ∧ Reads κ t [] (.midLine, .text 0) := by
  have hend : (Lexer.midLine, Setter.text 0) ∈ resting := by decide
  unfold Value.isColour at hc
  split at hc
  · exact ⟨_, rfl, .of_readFrom (by simpa using reads_reset κ hκ) hend rfl⟩
  · rename_i n
    have hn : 0 ≤ n := by simp only [Bool.and_eq_true, decide_eq_true_eq] at hc; exact hc.1
    exact ⟨_, rfl, .of_readFrom (by simpa using readFrom_palette hκ hn) hend rfl⟩
  · rename_i r g b
    simp only [Bool.and_eq_true, decide_eq_true_eq] at hc
    exact ⟨_, rfl, .of_readFrom (by simpa using readFrom_rgb hκ hc.1.1 hc.1.2 hc.2) hend rfl⟩
  · cases hc

/-- A mark that may be read next from a resting state typesets itself, up to what it leaves
pending, and rests again where every mark that may follow it may be read. -/
theorem reads_mark {κ : Lexer × Setter} (hκ : κ ∈ resting) {m : Mark} (hm : Spellable m)
    (hadm : Admits κ m) :
    ∃ t κ', Format.latex.mark m = .ok t ∧ Reads κ t m.pieces κ' ∧
      ∀ m', Follows m m' = true → Admits κ' m' := by
  cases m with
  | colour c =>
    obtain ⟨t, ht, hr⟩ := reads_colour hκ hm
    exact ⟨t, _, ht, hr, fun m' _ => admits_midLine _ m'⟩
  | glyph g =>
    obtain ⟨c, rfl, hpr, hu⟩ := hm
    obtain ⟨t, ⟨L', S'⟩, ht, hr, hafter⟩ := reads_glyph hκ hpr hu hadm
    refine ⟨t, (L', S'), ht, hr, fun m' hf => ?_⟩
    rcases hafter with hL' | ⟨rfl, hL'⟩
    · cases hL'
      exact admits_midLine S' m'
    · cases hL'
      exact admits_after_backslash S' hf
  | newline =>
    exact ⟨_, _, rfl, .of_readFrom (reads_newline κ hκ) (by decide) rfl,
      fun m' hf => admits_after_newline _ hf⟩

theorem reads_spell {κ : Lexer × Setter} (hκ : κ ∈ resting) {ms : List Mark}
    (hms : ∀ m ∈ ms, Spellable m) (hnext : ms.IsChain (Follows · ·))
    (hfirst : ∀ m ∈ ms.head?, Admits κ m) :
    (Format.latex.spell ms).2 = none ∧
      ∃ κ', Reads κ (Format.latex.spell ms).1 (ms.flatMap Mark.pieces) κ' := by
  induction ms generalizing κ with
  | nil => exact ⟨rfl, κ, ⟨[], rfl, by simp⟩, hκ⟩
  | cons m ms ih =>
    obtain ⟨t, κ₁, ht, hr, hafter⟩ := reads_mark hκ (hms m List.mem_cons_self) (hfirst m rfl)
    have hspell : Format.latex.spell (m :: ms) =
        (t ++ (Format.latex.spell ms).1, (Format.latex.spell ms).2) := by
      simp only [Format.spell, ht]
    -- the mark after `m` may follow it, so it may be read where `m` leaves reading
    have hfirst' : ∀ m' ∈ ms.head?, Admits κ₁ m' := by
      intro m' hm'
      obtain ⟨rest, rfl⟩ : ∃ rest, ms = m' :: rest := by
        cases ms with
        | nil => cases hm'
        | cons x rest => cases hm'; exact ⟨rest, rfl⟩
      exact hafter m' (List.isChain_cons_cons.mp hnext).1
    obtain ⟨hfault, κ₂, hr₂⟩ :=
      ih hr.rests (fun m' hm' => hms m' (List.mem_cons_of_mem _ hm')) hnext.tail hfirst'
    rw [hspell, List.flatMap_cons]
    exact ⟨hfault, κ₂, hr.append hr₂⟩

theorem finish_resting : ∀ κ ∈ resting, ∃ S ∈ [Setter.text 0, .charEnd 0, .lineEnd 0 false],
    setFrom κ.2 κ.1.finish = some (κ.1.pending, S) := by
  decide

theorem typeset_of_reads {t : Text} {ps : List Piece} {κ' : Lexer × Setter}
    (h : Reads (.newLine, .text 0) t ps κ') : typeset t = some ps := by
  obtain ⟨out, hr, hp⟩ := h.typesets
  obtain ⟨⟨o, S⟩, hset, he⟩ := Option.map_eq_some_iff.mp hr
  simp only [Prod.mk.injEq] at he
  obtain ⟨rfl, rfl⟩ := he
  obtain ⟨S', hS', hfin⟩ := finish_resting _ h.rests
  have hdone : S'.done = true := by
    simp only [List.mem_cons, List.not_mem_nil, or_false] at hS'
    rcases hS' with rfl | rfl | rfl <;> rfl
  have hps : ps = o ++ (lexFrom .newLine t).2.pending := by simpa [Lexer.pending.eq_2] using hp
  unfold typeset
  simp only [setFrom_append, hset, Option.bind_some, hfin, Option.map_some, hdone, if_true, hps]

end Tex

/-! ### The page of a screen -/

theorem flatMap_pieces_rowMarks (prev : Value) (row : List Cell) :
    (rowMarks prev row).1.flatMap Mark.pieces =
      (row.flatMap fun c => c.glyph.toText).map .glyph := by
  induction row generalizing prev with
  | nil => rfl
  | cons c rest ih =>
    rcases hr : rowMarks c.colour rest with ⟨ms, last⟩
    have hms := ih c.colour
    rw [hr] at hms
    simp only [rowMarks, hr, List.flatMap_append, List.flatMap_cons, List.flatMap_cons, hms,
      List.map_append]
    split <;> simp [Mark.pieces]

theorem flatMap_pieces_rowsMarks (prev : Value) (rows : List (List Cell)) :
    (rowsMarks prev rows).flatMap Mark.pieces =
      rows.flatMap fun row => (row.flatMap fun c => c.glyph.toText).map .glyph ++ [.lineBreak] := by
  induction rows generalizing prev with
  | nil => rfl
  | cons row rest ih =>
    rcases hr : rowMarks prev row with ⟨ms, last⟩
    have hms := flatMap_pieces_rowMarks prev row
    rw [hr] at hms
    simp [rowsMarks, hr, hms, ih, Mark.pieces]

theorem Screen.flatMap_pieces_marks (s : Screen) : s.marks.flatMap Mark.pieces = s.page :=
  flatMap_pieces_rowsMarks .null s.rows

theorem spellable_marks {W H : Nat} {s : Screen} (hs : s.WellFormed W H)
    (hplain : ∀ row ∈ s.rows, ∀ c ∈ row, Tex.leftSpecial c.glyph = false) :
    ∀ m ∈ s.marks, Tex.Spellable m := by
  intro m hm
  rcases mem_rowsMarks hm with rfl | ⟨row, hrow, c, hc, rfl | rfl⟩
  · trivial
  · have hsound := hs.cells row hrow c hc
    simp only [Cell.isSound, Bool.and_eq_true] at hsound
    exact hsound.2
  · have hsound := hs.cells row hrow c hc
    simp only [Cell.isSound, Bool.and_eq_true] at hsound
    obtain ⟨p, hp, hpr⟩ := Value.eq_of_isGlyph hsound.1
    have hleft := hplain row hrow c hc
    cases p with
    | char ch =>
      refine ⟨ch, hp, hpr, fun hu => ?_⟩
      simp [hp, Tex.leftSpecial, hu] at hleft
    | surrogate o =>
      simp only [Token.isPrintable, Point.code, Bool.and_eq_true] at hpr
      have := of_decide_eq_true hpr.2
      omega

/-- On a well-formed screen with no cell left special, no letter after a backslash and no star
after a row end, the LaTeX page is the screen's glyphs row by row. -/
theorem latex_typesets_screen {W H : Nat} {s : Screen} (hs : s.WellFormed W H)
    (hplain : ∀ row ∈ s.rows, ∀ c ∈ row, Tex.leftSpecial c.glyph = false)
    (hnext : s.marks.IsChain (Tex.Follows · ·)) :
    (Format.latex.render s).2 = none ∧ Tex.typeset (Format.latex.render s).1 = some s.page := by
  have hstart : (Tex.Lexer.newLine, Tex.Setter.text 0) ∈ Tex.resting := by decide
  obtain ⟨hfault, κ', hr⟩ := Tex.reads_spell hstart (spellable_marks hs hplain) hnext
    fun _ _ => ⟨nofun, nofun⟩
  refine ⟨hfault, ?_⟩
  rw [← Screen.flatMap_pieces_marks]
  exact Tex.typeset_of_reads hr

/-- A 3 by 2 screen where colour changes separate a backslash from a letter and a row end from a
star. -/
theorem latex_typesets_screen_three_by_two :
    let s : Screen :=
      { width := .int 3, height := .int 2, x := .int 0, y := .int 1, pen := .null,
        rows := [[⟨.text "\\", .int 1⟩, ⟨.text "a", .int 2⟩, ⟨.text "$", .int 2⟩],
          [⟨.text "*", .tuple [.int 1, .int 2, .int 3]⟩, ⟨.text "_", .null⟩, ⟨.text " ", .null⟩]] }
    s.WellFormed 3 2 ∧ (∀ row ∈ s.rows, ∀ c ∈ row, Tex.leftSpecial c.glyph = false) ∧
      s.marks.IsChain (Tex.Follows · ·) ∧
      ((Format.latex.render s).2 = none ∧ Tex.typeset (Format.latex.render s).1 = some s.page) := by
  intro s
  have hs : s.WellFormed 3 2 :=
    ⟨⟨rfl, rfl, rfl, by decide⟩, by decide, by decide, rfl, ⟨0, rfl, by decide, by decide⟩,
      ⟨1, rfl, by decide⟩⟩
  have hplain : ∀ row ∈ s.rows, ∀ c ∈ row, Tex.leftSpecial c.glyph = false := by decide
  have hnext : s.marks.IsChain (Tex.Follows · ·) := by decide
  exact ⟨hs, hplain, hnext, latex_typesets_screen hs hplain hnext⟩

-- A `%` takes the rest of its row and the row's line break.
example : let s : Screen :=
      { width := .int 2, height := .int 1, x := .int 1, y := .int 0, pen := .null,
        rows := [[⟨.text "%", .null⟩, ⟨.text " ", .null⟩]] }
    Tex.typeset (Format.latex.render s).1 = some [] := by decide

-- A letter right after a backslash makes `\textbackslash` an undefined command.
example : let s : Screen :=
      { width := .int 2, height := .int 1, x := .int 0, y := .int 0, pen := .null,
        rows := [[⟨.text "\\", .null⟩, ⟨.text "a", .null⟩]] }
    Tex.typeset (Format.latex.render s).1 = none := by decide

-- A star that starts a row in the colour of the row before is taken by `\\`.
example : let s : Screen :=
      { width := .int 1, height := .int 2, x := .int 0, y := .int 1, pen := .null,
        rows := [[⟨.text "x", .null⟩], [⟨.text "*", .null⟩]] }
    Tex.typeset (Format.latex.render s).1 = some [.glyph (.char 'x'), .lineBreak, .lineBreak] := by
  decide

end TermSnap
