import TermSnap.Recording.Export
/-!
# The console

A console drives a terminal by commands, each an object whose `op` names it, and reports after each
what it printed, what it answered and the screen. A fault ends the run after its command's report.
A `move` extends a list coordinate in place, so a report shows it as it ends up (`Hold`).
-/

namespace TermSnap

namespace Console

/-- What a command did to the object a cursor coordinate held. -/
inductive Hold where
  /-- The coordinate still holds the object, changed in place or not. -/
  | same
  /-- The coordinate was given another object, and the old one is left as it was. -/
  | replaced
  /-- The list the coordinate held was extended in place to this value, and then the coordinate
  was given another object. -/
  | extendedThenReplaced (v : Value)

/-- How a report shows a coordinate that is `own` when the command ends, given what the next
command did to it. -/
def Hold.shown (own : Value) : Option (Hold × Value) → Value
  | some (.same, later) => if let .array _ := own then later else own
  | some (.extendedThenReplaced v, _) => if let .array _ := own then v else own
  | _ => own

/-- The report of one command. -/
structure Step where
  /-- What the command printed: notices, when asked for, then any rendering. -/
  printed : Text
  /-- The glyph a `get` command read. -/
  result : Option Value
  /-- The screen after the command. -/
  screen : Screen
  /-- The fault that ended the run, if this command raised one. -/
  fault : Option Fault
  /-- What the command did to the object of the cursor's column. -/
  column : Hold
  /-- What the command did to the object of the cursor's row. -/
  row : Hold

structure Effect where
  terminal : Terminal
  rendered : Text
  result : Option Value
  fault : Option Fault
  column : Hold := .same
  row : Hold := .same

/-- The name of a command: its `op` member, `null` when it has none. -/
def commandName (op : Value) : Except Fault Value :=
  match op with
  | .object ms => .ok ((Value.lookup (Text.ofString "op") ms).getD .null)
  | v => .error (.noAttribute v.kind "get")

open Terminal in
def field (op : Value) (key : String) : M Value := lift (op.field key)

/-- The pen colour a `color` command sets: a list is taken as a tuple. -/
def penOf : Value → Value
  | .array xs => .tuple xs
  | v => v

open Terminal in
/-- Carries out a command other than `render`, given its name; what it answered. -/
def command (name op : Value) : M (Option Value) :=
  if name.isText "write" then do feed (← field op "data"); pure none
  else if name.isText "csi" then do controlSequence (← field op "seq"); pure none
  else if name.isText "sgr" then do graphic (← field op "seq"); pure none
  else if name.isText "text" then do printElements (← field op "text"); pure none
  else if name.isText "cr" then do carriageReturn; pure none
  else if name.isText "lf" then do lineFeed; pure none
  else if name.isText "bs" then do backspace; pure none
  else if name.isText "move" then do
    let dx ← field op "dx"
    let dy ← field op "dy"
    moveBy dx dy
    pure none
  else if name.isText "erase" then do
    let f ← field op "function"
    let p ← field op "seq"
    onScreen (Screen.erase f p)
    pure none
  else if name.isText "set" then do
    let g ← field op "c"
    let x ← field op "x"
    let y ← field op "y"
    onScreen (Screen.put x y g)
    pure none
  else if name.isText "color" then do setPen (penOf (← field op "color")); pure none
  else if name.isText "cursor" then do
    let x ← field op "x"
    modify fun t => { t with screen := { t.screen with x } }
    let y ← field op "y"
    modify fun t => { t with screen := { t.screen with y } }
    pure none
  else if name.isText "get" then do
    let x ← field op "x"
    let y ← field op "y"
    let t ← get
    pure (some (← lift (t.screen.cell? x y)).glyph)
  else throw (.unknownCommand name)

def hasField (op : Value) (key : String) : Bool :=
  match op.field key with
  | .ok _ => true
  | .error _ => false

/-- What a command did to the object of the cursor's column: `cursor` replaces it, a `move`
extends a list in place, and a wrap replaces it by column 0. -/
def columnHold (name op before after : Value) : Hold :=
  if name.isText "cursor" then (if hasField op "x" then .replaced else .same)
  else if name.isText "move" then
    match before, after, op.field "dx" with
    | .array _, .array _, _ => .same
    | .array _, _, .ok dx =>
      match before.add .augmented dx with
      | .ok v => if hasField op "dy" then .extendedThenReplaced v else .same
      | .error _ => .same
    | _, _, _ => .same
  else .same

def rowHold (name op : Value) : Hold :=
  if name.isText "cursor" && hasField op "x" && hasField op "y" then .replaced else .same

def perform (op : Value) (t : Terminal) : Effect :=
  match commandName op with
  | .error e => { terminal := t, rendered := [], result := none, fault := some e }
  | .ok name =>
    if name.isText "render" then
      match op.field "renderer" >>= Format.named with
      | .error e => { terminal := t, rendered := [], result := none, fault := some e }
      | .ok f =>
        let (text, fault) := f.render t.screen
        { terminal := t, rendered := text, result := none, fault }
    else
      let (t', result, fault) := match command name op t with
        | .ok result t' => (t', result, none)
        | .error e t' => (t', none, some e)
      { terminal := t', rendered := [], result, fault,
        column := columnHold name op t.screen.x t'.screen.x, row := rowHold name op }

/-- Runs commands on a terminal, one report each, stopping after a fault. -/
def steps (verbose : Bool) : Terminal → List Value → List Step
  | _, [] => []
  | t, op :: rest =>
    let r := perform op { t with notices := [] }
    let printed := (if verbose then noticeLines r.terminal.notices else []) ++ r.rendered
    match r.fault with
    | none =>
      let later := steps verbose r.terminal rest
      let s := r.terminal.screen
      let next := later.head?
      let s := { s with x := Hold.shown s.x (next.map fun n => (n.column, n.screen.x)),
                        y := Hold.shown s.y (next.map fun n => (n.row, n.screen.y)) }
      ⟨printed, r.result, s, none, r.column, r.row⟩ :: later
    | some e => [⟨printed, none, r.terminal.screen, some e, r.column, r.row⟩]

/-- Runs the commands of a value, walked through, on a blank screen of the given size. -/
def run (width height : Value) (verbose : Bool) (ops : Value) : Except Fault (List Step) := do
  let s ← Screen.make width height
  let ops ← ops.iterate
  pure (steps verbose (Terminal.ofScreen s) ops)

/-- Runs of cells whose colours are of one kind and equal, each with its first colour and length. -/
def colourRuns : List Cell → List (Value × Nat)
  | [] => []
  | c :: rest =>
    match colourRuns rest with
    | (d, n) :: runs =>
      if c.colour.kind == d.kind && c.colour.eq d then (c.colour, n + 1) :: runs
      else (c.colour, 1) :: (d, n) :: runs
    | [] => [(c.colour, 1)]

end Console

end TermSnap
