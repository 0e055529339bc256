import TermSnap.Terminal.Control
import TermSnap.Escape.Token
/-!
# Writing output to the terminal

`Terminal.write` splits a text into tokens and carries them out in order; a fault stops the text
there, keeping the effect of the tokens before it. `Terminal.feed` takes any value as output.
-/

namespace TermSnap

namespace Terminal

def apply : Token → M Unit
  | .command _ _ => pure ()
  | .control _ ps is f => controlSequence (.str (ps ++ is ++ [f]))
  | .escape _ => pure ()
  | .text run => printGlyphs (run.map fun c => .str [c])
  | .backspace => backspace
  | .carriageReturn => carriageReturn
  | .lineFeed => lineFeed
  | .stray _ => note .unmatched

def applyAll : List Token → M Unit
  | [] => pure ()
  | t :: ts => do apply t; applyAll ts

/-- Writes a text to the terminal. -/
def write (data : Text) : M Unit := applyAll (Token.scan data)

/-- Writes a value as output. -/
def feed (v : Value) : M Unit :=
  match v with
  | .str s => write s
  | v =>
    match v.length? with
    | some 0 => pure ()
    | some _ => throw (.notText v.kind)
    | none => throw (.noLength v.kind)

end Terminal

end TermSnap
