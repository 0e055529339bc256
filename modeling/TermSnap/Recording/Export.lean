import TermSnap.Terminal.Write
import TermSnap.Render
/-!
# Exporting a recording

A recording is a JSON object with `width`, `height`, `duration` and `stdout`, a list of frames
`[delay, output]`. `snapshot` replays the frames on a blank screen while the clock stays below the
time limit, renders the screen, and with `verbose` adds the notices and the clock's time.
-/

namespace TermSnap

/-- The clock's time as printed; an integer of more than `Text.digitLimit` digits fails. -/
def clockText (t : Value) : Except Fault Text :=
  match t with
  | .int n =>
    if Text.digitLimit < (toString n.natAbs).length then .error .tooLongToShow else .ok t.toText
  | t => .ok t.toText

namespace Terminal

/-- Plays frames from time `t` until the clock reaches `limit`; the time at the end. -/
def replay (limit : Value) : List Value → Value → M Value
  | [], t => pure t
  | frame :: rest, t => do
    let (delay, output) ← lift frame.pair
    let t' ← lift (t.add .binary delay)
    if ← lift (t'.isAtLeast limit) then pure t'
    else do
      feed output
      replay limit rest t'

end Terminal

def noticeLines (ns : List Notice) : Text := ns.flatMap fun n => n.text ++ [.char '\n']

/-- The text a recording's document exports to at the time limit `limit`: the frames replayed on a
blank screen, the screen rendered, and with `verbose` the notices and the clock's time. -/
def exportDocument (doc limit : Value) (format : Format) (verbose : Bool) :
    Except Fault Text := do
  let screen ← Screen.make (← doc.field "width") (← doc.field "height")
  let frames ← (← doc.field "stdout").iterate
  match Terminal.replay limit frames (.int 0) (Terminal.ofScreen screen) with
  | .error e _ => .error e
  | .ok t term =>
    let (rendered, fault) := format.render term.screen
    if let some e := fault then throw e
    let shown ← clockText t
    let head := if verbose then noticeLines term.notices else []
    let tail := if verbose then
        Text.ofString "Exported screen contents at time: " ++ shown ++ [.char '\n']
      else []
    pure (head ++ rendered ++ tail)

/-- The text a recording exports to: its screen at the time limit, `null` for the duration.
`height` is a requested height, read only when none is given. -/
def snapshot (recording height limit : Value) (format : Format) (verbose : Bool) :
    Except Fault Text := do
  let text ← match recording with
    | .str t => pure t
    | v => throw (.notJsonText v.kind)
  let doc ← (Json.parse text).mapError Fault.ofFailure
  if let .null := height then discard (doc.field "height")
  let limit ← match limit with
    | .null => doc.field "duration"
    | l => pure l
  exportDocument doc limit format verbose

end TermSnap
