import TermSnap.Screen.Basic
/-!
# Rendering a screen

A screen renders row by row as marks: a colour change where a cell's colour differs from the one
before it, the default before the first, then its glyph, and a line end after each row. A `Format`
spells each mark, LaTeX or terminal text, and spelling stops at the first mark that fails.
-/

namespace TermSnap

/-- A step of a rendered screen. -/
inductive Mark where
  /-- The colour changes. -/
  | colour (c : Value)
  /-- A cell's glyph. -/
  | glyph (g : Value)
  /-- A row ends. -/
  | newline

/-- The marks of a row, given the colour in force before it, and the colour after it. -/
def rowMarks : Value → List Cell → List Mark × Value
  | prev, [] => ([], prev)
  | prev, c :: rest =>
    let (ms, last) := rowMarks c.colour rest
    ((if c.colour.eq prev then [] else [Mark.colour c.colour]) ++ Mark.glyph c.glyph :: ms, last)

def rowsMarks : Value → List (List Cell) → List Mark
  | _, [] => []
  | prev, row :: rest =>
    let (ms, last) := rowMarks prev row
    ms ++ Mark.newline :: rowsMarks last rest

def Screen.marks (s : Screen) : List Mark := rowsMarks .null s.rows

/-- How each mark is spelled. -/
structure Format where
  /-- The name of the call that spells a red-green-blue colour, as messages give it. -/
  colourCall : String
  /-- The spelling of the default colour. -/
  reset : Text
  /-- The spelling of a palette entry, given the entry's number as text. -/
  palette : Text → Text
  /-- The spelling of a red-green-blue colour, given its three components as text. -/
  rgb : Text → Text → Text → Text
  /-- The spelling of a glyph. -/
  glyph : Value → Except Fault Text
  /-- The spelling of a line end. -/
  newline : Text

namespace Format

def componentNames : List String := ["r", "g", "b"]

/-- The text of a change to colour `c`. -/
def colour (f : Format) (c : Value) : Except Fault Text :=
  match c with
  | .null => .ok f.reset
  | .int n => .ok (f.palette (Text.ofString (toString n)))
  | c =>
    match c.elements? with
    | none => .error (.starNotIterable f.colourCall c.kind)
    | some [r, g, b] => .ok (f.rgb r.toText g.toText b.toText)
    | some xs =>
      if xs.length < 3 then .error (.missingArguments f.colourCall (componentNames.drop xs.length))
      else .error (.tooManyArguments f.colourCall 3 xs.length)

def mark (f : Format) : Mark → Except Fault Text
  | .colour c => f.colour c
  | .glyph g => f.glyph g
  | .newline => .ok f.newline

/-- The text of marks in order, up to the first mark that fails, and that mark's fault. -/
def spell (f : Format) : List Mark → Text × Option Fault
  | [] => ([], none)
  | m :: ms =>
    match f.mark m with
    | .error e => ([], some e)
    | .ok t =>
      let (rest, e) := f.spell ms
      (t ++ rest, e)

/-- The text of a screen in a format, and the fault that stopped it, if any. -/
def render (f : Format) (s : Screen) : Text × Option Fault := f.spell s.marks

/-- A glyph in LaTeX: `$` and `#` escaped, brackets and space in braces, the backslash and the
underscore as commands; a glyph that cannot be a key fails. -/
def latexGlyph (g : Value) : Except Fault Text :=
  match g.unhashable? with
  | some k => .error (.unhashable k)
  | none =>
    .ok (if g.isText "$" || g.isText "#" then Text.ofString "\\" ++ g.toText
      else if g.isText "[" || g.isText "]" || g.isText " " then
        Text.ofString "\x7b" ++ g.toText ++ Text.ofString "\x7d"
      else if g.isText "\\" then Text.ofString "\\textbackslash"
      else if g.isText "_" then Text.ofString "\\char`_"
      else g.toText)

/-- LaTeX: palette colours by the ansicolor command, triples by an RGB colour. -/
def latex : Format where
  colourCall := "LatexRenderer.setRgbColor"
  reset := Text.ofString "\\normalcolor\x7b\x7d"
  palette n := Text.ofString "\\ansicolor\x7b" ++ n ++ Text.ofString "\x7d"
  rgb r g b := Text.ofString "\\color[RGB]\x7b" ++ r ++ Text.ofString ", " ++ g ++
    Text.ofString ", " ++ b ++ Text.ofString "\x7d"
  glyph := latexGlyph
  newline := Text.ofString "\\\\\n"

/-- Terminal text: colours as ANSI select-graphic-rendition sequences. -/
def ansi : Format where
  colourCall := "TerminalRenderer.setRgbColor"
  reset := Text.ofString "\x1b[0m"
  palette n := Text.ofString "\x1b[38;5;" ++ n ++ Text.ofString "m"
  rgb r g b := Text.ofString "\x1b[38;2;" ++ r ++ Text.ofString ";" ++ g ++ Text.ofString ";" ++
    b ++ Text.ofString "m"
  glyph g := .ok g.toText
  newline := Text.ofString "\n"

/-- The format a value names: `latex` or `term`. -/
def named (name : Value) : Except Fault Format :=
  match name.unhashable? with
  | some k => .error (.unhashable k)
  | none =>
    if name.isText "latex" then .ok latex
    else if name.isText "term" then .ok ansi
    else .error (.missingKey name)

end Format

end TermSnap
