import TermSnap.Screen.Cursor
import TermSnap.Screen.Erase
/-!
# The terminal

A terminal is a screen and the notices made while reading output. `Terminal.M` may fail and keeps
what it changed before the fault. A carriage return and a line feed negate the cursor's column
first, which fails for a column that is no number.
-/

namespace TermSnap

/-- A remark made while reading terminal output. -/
inductive Notice where
  /-- A character that fits no rule. -/
  | unmatched
  /-- A control sequence whose final element names no known function. -/
  | unknownControl (final : Value)
  /-- A colour setting without enough parameters. -/
  | badColour
  /-- A graphic rendition code that is not known. -/
  | unknownGraphic (code : Int)

def Notice.text : Notice → Text
  | .unmatched => Text.ofString "Unmatched character in input stream"
  | .unknownControl f => Text.ofString "Unknown CSI sequence: " ++ f.toText
  | .badColour => Text.ofString "Invalid color sequence"
  | .unknownGraphic n => Text.ofString ("Unknown SGR: " ++ toString n)

/-- A screen and the notices made so far, oldest first. -/
structure Terminal where
  screen : Screen
  notices : List Notice
deriving Inhabited

namespace Terminal

/-- An operation on a terminal that may fail, keeping what it changed before the fault. -/
abbrev M := EStateM Fault Terminal

def ofScreen (s : Screen) : Terminal := ⟨s, []⟩

def note (n : Notice) : M Unit := modify fun t => { t with notices := t.notices ++ [n] }

def onScreen {α : Type} (step : Screen.Step α) : M α := fun t =>
  match step t.screen with
  | .ok a s => .ok a { t with screen := s }
  | .error e s => .error e { t with screen := s }

/-- Fails unless a computation succeeded, changing nothing. -/
def lift {α : Type} : Except Fault α → M α
  | .ok a => pure a
  | .error e => throw e

def column : M Value := fun t => .ok t.screen.x t

/-- Prints one glyph at the cursor in the pen colour and moves right. -/
def printGlyph (g : Value) : M Unit := onScreen do
  let s ← get
  Screen.put s.x s.y g
  Screen.move (.int 1) (.int 0)

def printGlyphs : List Value → M Unit
  | [] => pure ()
  | g :: gs => do printGlyph g; printGlyphs gs

/-- Prints each element of a value, one glyph each: each code point of a text, each item of a
list. -/
def printElements (v : Value) : M Unit := do
  printGlyphs (← lift v.iterate)

/-- Moves left one column and blanks the cell there. -/
def backspace : M Unit := onScreen do
  Screen.move (.int (-1)) (.int 0)
  let s ← get
  Screen.put s.x s.y (.text " ")

def carriageReturn : M Unit := onScreen do
  let s ← get
  Screen.move (← Screen.lift s.x.neg) (.int 0)

def lineFeed : M Unit := onScreen do
  let s ← get
  Screen.move (← Screen.lift s.x.neg) (.int 1)

end Terminal

end TermSnap
