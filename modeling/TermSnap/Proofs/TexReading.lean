import TermSnap.Text.Point
/-!
# How TeX reads a text

What a LaTeX document typesets from a fragment of text, in two stages, each a machine that reads
one item at a time. TeX's eyes turn characters into tokens (`lexFrom`): control words and symbols,
skipped and merged spaces, line ends and `%` comments, with LaTeX's categories. Typesetting turns
tokens into glyphs and line breaks (`setFrom`): groups, the glyph commands, the colour commands and
`\\` with its star and optional argument; anything else stops it, and `typeset` is then `none`.
-/

namespace TermSnap.Tex

/-- The categories TeX gives characters. -/
inductive Category where
  | escape | beginGroup | endGroup | mathShift | alignTab | endLine | parameter
  | superscript | subscript | space | letter | other | active | comment | invalid
deriving DecidableEq, Repr

/-- The category of a code point, as LaTeX sets them; a lone surrogate is invalid. -/
def category : Point → Category
  | .surrogate _ => .invalid
  | .char c =>
    if c = '\\' then .escape
    else if c = '\x7b' then .beginGroup
    else if c = '\x7d' then .endGroup
    else if c = '$' then .mathShift
    else if c = '&' then .alignTab
    else if c = '\n' then .endLine
    else if c = '#' then .parameter
    else if c = '^' then .superscript
    else if c = '_' then .subscript
    else if c = ' ' then .space
    else if c.isAlpha then .letter
    else if c = '~' then .active
    else if c = '%' then .comment
    else .other

inductive Token where
  /-- A control word: the escape character and a run of letters. -/
  | word (name : Text)
  /-- A control symbol: the escape character and one other character. -/
  | symbol (p : Point)
  /-- A character, of the category it has. -/
  | char (p : Point)
  /-- A space. -/
  | space
  /-- The end of a paragraph. -/
  | par
deriving DecidableEq, Repr

/-! ### Characters into tokens -/

/-- Where TeX's reading of a line stands. -/
inductive Lexer where
  /-- At the start of a line: spaces are skipped, and a line end is an empty line. -/
  | newLine
  /-- In the middle of a line. -/
  | midLine
  /-- After a space or a control word: spaces are skipped. -/
  | skipBlanks
  /-- In a comment, up to the line end. -/
  | comment
  /-- After the escape character. -/
  | escape
  /-- In the name of a control word. -/
  | word (name : Text)
deriving DecidableEq, Repr

namespace Lexer

def onLine (st : Lexer) (p : Point) : List Token × Lexer :=
  match category p with
  | .escape => ([], .escape)
  | .comment => ([], .comment)
  | .endLine => (if st = .newLine then [.par] else if st = .midLine then [.space] else [], .newLine)
  | .space => if st = .midLine then ([.space], .skipBlanks) else ([], st)
  | _ => ([.char p], .midLine)

/-- One character read: the tokens it completes and where reading stands after it. -/
def step : Lexer → Point → List Token × Lexer
  | .comment, p => ([], if category p = .endLine then .newLine else .comment)
  | .escape, p =>
    if category p = .letter then ([], .word [p])
    else ([.symbol p], if category p = .space then .skipBlanks
      else if category p = .endLine then .newLine else .midLine)
  | .word name, p =>
    if category p = .letter then ([], .word (name ++ [p]))
    else (.word name :: (skipBlanks.onLine p).1, (skipBlanks.onLine p).2)
  | .newLine, p => newLine.onLine p
  | .midLine, p => midLine.onLine p
  | .skipBlanks, p => skipBlanks.onLine p

def finish : Lexer → List Token
  | .word name => [.word name]
  | _ => []

end Lexer

/-- The tokens of a text read from a state, and where reading stands after it. -/
def lexFrom : Lexer → Text → List Token × Lexer
  | st, [] => ([], st)
  | st, p :: ps => ((st.step p).1 ++ (lexFrom (st.step p).2 ps).1, (lexFrom (st.step p).2 ps).2)

theorem lexFrom_append (st : Lexer) (a b : Text) :
    lexFrom st (a ++ b) =
      ((lexFrom st a).1 ++ (lexFrom (lexFrom st a).2 b).1, (lexFrom (lexFrom st a).2 b).2) := by
  induction a generalizing st with
  | nil => rfl
  | cons p ps ih => simp [lexFrom, ih]

/-! ### Tokens into a page -/

inductive Piece where
  | glyph (p : Point)
  | lineBreak
deriving DecidableEq, Repr

/-- Where LaTeX's typesetting stands; `depth` counts the groups that the text has open. -/
inductive Setter where
  /-- In running text. -/
  | text (depth : Nat)
  /-- After `\\`: spaces are skipped, and a `*` (once) or a bracket is part of the break. -/
  | lineEnd (depth : Nat) (starred : Bool)
  /-- In the optional argument of `\\`, up to its closing bracket. -/
  | lineEndOption (depth : Nat)
  /-- After `\char`, before the backquote of its character. -/
  | charCode (depth : Nat)
  /-- After `\char` and the backquote: the next token's character is the code. -/
  | charConstant (depth : Nat)
  /-- After a character code: one space may follow and is part of it. -/
  | charEnd (depth : Nat)
  /-- After `\color`: an optional model in brackets, then the colour in braces. -/
  | colour (depth : Nat)
  /-- In the model of `\color`, up to its closing bracket. -/
  | colourModel (depth : Nat)
  /-- Before an argument in braces. -/
  | argument (depth : Nat)
  /-- In an argument in braces, with `extra` more braces open inside it. -/
  | group (depth extra : Nat)
deriving DecidableEq, Repr

def typesetText (d : Nat) : Token → Option (List Piece × Setter)
  | .word name =>
    if name = Text.ofString "textbackslash" then some ([.glyph (.char '\\')], .text d)
    else if name = Text.ofString "normalcolor" then some ([], .text d)
    else if name = Text.ofString "ansicolor" then some ([], .argument d)
    else if name = Text.ofString "color" then some ([], .colour d)
    else if name = Text.ofString "char" then some ([], .charCode d)
    else none
  | .symbol p =>
    if p = .char '\\' then some ([.lineBreak], .lineEnd d false)
    else if p ∈ Text.ofString "$#%&_ \x7b\x7d" then some ([.glyph p], .text d)
    else none
  | .char p =>
    match category p with
    | .letter | .other => some ([.glyph p], .text d)
    | .beginGroup => some ([], .text (d + 1))
    | .endGroup => match d with
      | 0 => none
      | d + 1 => some ([], .text d)
    | .active => some ([.glyph (.char ' ')], .text d)
    | _ => none
  | .space => some ([.glyph (.char ' ')], .text d)
  | .par => none

namespace Setter

/-- One token typeset: the pieces it puts on the page and the state after it, or `none`. -/
def step : Setter → Token → Option (List Piece × Setter)
  | .text d, t => typesetText d t
  | .lineEnd d starred, t =>
    if t = .space then some ([], .lineEnd d starred)
    else if t = .char (.char '*') ∧ starred = false then some ([], .lineEnd d true)
    else if t = .char (.char '[') then some ([], .lineEndOption d)
    else typesetText d t
  | .lineEndOption d, t => some ([], if t = .char (.char ']') then .text d else .lineEndOption d)
  | .charCode d, t =>
    if t = .space then some ([], .charCode d)
    else if t = .char (.char '\x60') then some ([], .charConstant d)
    else none
  | .charConstant d, .char p => some ([.glyph p], .charEnd d)
  | .charConstant d, .symbol p => some ([.glyph p], .charEnd d)
  | .charConstant _, _ => none
  | .charEnd d, t => if t = .space then some ([], .text d) else typesetText d t
  | .colour d, t =>
    if t = .space then some ([], .colour d)
    else if t = .char (.char '[') then some ([], .colourModel d)
    else if t = .char (.char '\x7b') then some ([], .group d 0)
    else none
  | .colourModel d, t => some ([], if t = .char (.char ']') then .argument d else .colourModel d)
  | .argument d, t =>
    if t = .space then some ([], .argument d)
    else if t = .char (.char '\x7b') then some ([], .group d 0)
    else none
  | .group d extra, t =>
    if t = .char (.char '\x7b') then some ([], .group d (extra + 1))
    else if t = .char (.char '\x7d') then
      some ([], match extra with
        | 0 => .text d
        | k + 1 => .group d k)
    else some ([], .group d extra)

/-- Whether typesetting may stop here: in running text with every group closed, or after a line
break or a character code. -/
def done : Setter → Bool
  | .text 0 | .lineEnd 0 _ | .charEnd 0 => true
  | _ => false

end Setter

def setFrom : Setter → List Token → Option (List Piece × Setter)
  | st, [] => some ([], st)
  | st, t :: ts =>
    (st.step t).bind fun r =>
      (setFrom r.2 ts).map fun r' => (r.1 ++ r'.1, r'.2)

theorem setFrom_append (st : Setter) (xs ys : List Token) :
    setFrom st (xs ++ ys) =
      (setFrom st xs).bind fun r => (setFrom r.2 ys).map fun r' => (r.1 ++ r'.1, r'.2) := by
  induction xs generalizing st with
  | nil => simp [setFrom]
  | cons t ts ih =>
    simp only [List.cons_append, setFrom, ih]
    cases st.step t with
    | none => rfl
    | some r =>
      simp only [Option.bind_some]
      cases setFrom r.2 ts with
      | none => rfl
      | some r' => simp [Option.map_map, Function.comp_def, List.append_assoc]

/-- The page a text typesets, or `none` where typesetting stops or a group is left open. -/
def typeset (t : Text) : Option (List Piece) :=
  match setFrom (.text 0) ((lexFrom .newLine t).1 ++ (lexFrom .newLine t).2.finish) with
  | some (out, st) => if st.done then some out else none
  | none => none

example : typeset (Text.ofString "a\x7b \x7d\\$\\\\\n") =
    some [.glyph (.char 'a'), .glyph (.char ' '), .glyph (.char '$'), .lineBreak] := by decide
example : typeset (Text.ofString "\\\\\n*x\\\\\n") = some [.lineBreak, .glyph (.char 'x'), .lineBreak] := by
  decide
example : typeset (Text.ofString "%\x7b \x7d\\\\\n") = some [] := by decide
example : typeset (Text.ofString "\\textbackslash a") = some [.glyph (.char '\\'), .glyph (.char 'a')] := by
  decide
example : typeset (Text.ofString "\\textbackslasha") = none := by decide

end TermSnap.Tex
