import TermSnap.Console
import TermSnap.Cli.Run
import TermSnap.Json.Writer
/-!
# Requests

A request's `op` names what to do: `main` exports a recording, `buffer` runs console commands, and
`cli` runs the command line, `@FILE` standing for a file of the request's `file` text.
`Request.answer` gives the output, the reports, or a fault's class and message.
-/

namespace TermSnap

namespace Request

/-- A field of a request, `null` when absent. -/
def member (req : Value) (key : String) : Value := (req.get? key).getD .null

def memberOr (req : Value) (key : String) (default : Value) : Value := (req.get? key).getD default

def record (members : List (String × Value)) : Value :=
  .object (members.map fun (k, v) => (Text.ofString k, v))

def faultMembers (f : Fault) : List (String × Value) :=
  [("error", .text f.category), ("message", .text f.message)]

def stepAnswer (s : Console.Step) : Value :=
  let runs := s.screen.rows.map fun row =>
    Value.array ((Console.colourRuns row).map fun (c, n) => .array [c, .int n])
  record ([("out", .str s.printed), ("x", s.screen.x), ("y", s.screen.y),
      ("color", s.screen.pen), ("rows", .array (s.screen.rowTexts.map .str)),
      ("colors", .array runs)] ++
    (match s.result with
      | some g => [("result", g)]
      | none => []) ++
    (match s.fault with
      | some f => faultMembers f
      | none => []))

/-- Exports a recording: the fields `asciicast` and `renderer` must be there. -/
def exportAnswer (req : Value) : Value :=
  let out : Except Fault Text := do
    let recording ← req.field "asciicast"
    let format ← Format.named (memberOr req "renderer" (.text "latex"))
    snapshot recording (member req "height") (member req "timestamp") format
      (member req "verbose").truthy
  match out with
  | .ok text => record [("output", .str text)]
  | .error f => record (faultMembers f)

/-- Runs console commands: the fields `width`, `height` and `ops` must be there. -/
def consoleAnswer (req : Value) : Value :=
  let out : Except Fault (List Console.Step) := do
    let width ← req.field "width"
    let height ← req.field "height"
    let ops := memberOr req "ops" (.array [])
    Console.run width height (member req "verbose").truthy ops
  match out with
  | .ok steps => record [("steps", .array (steps.map stepAnswer))]
  | .error f => record (faultMembers f)

/-- Runs the command line: the file text is written first, then the arguments are given to the
program with the file for `@FILE`. -/
def commandLineAnswer (req : Value) : Value :=
  let outcome : Except Fault Cli.Outcome := do
    let file ← match memberOr req "file" (.text "") with
      | .str t => match Cli.writeFault? t with
        | some f => throw f
        | none => pure t
      | v => throw (.writeNotText v.kind)
    let args ← (memberOr req "args" (.array [])).iterate
    pure (Cli.run args fun p => if p = Text.ofString "@FILE" then some file else none)
  match outcome with
  | .error f => record (faultMembers f)
  | .ok (.printed out) => record [("output", .str out)]
  | .ok (.exit code) => record [("error", .text "SystemExit"), ("message", .text (toString code))]
  | .ok (.failed f) => record (faultMembers f)

/-- The answer to a request. -/
def answer (req : Value) : Value :=
  let op := member req "op"
  if op.isText "main" then exportAnswer req
  else if op.isText "buffer" then consoleAnswer req
  else if op.isText "cli" then commandLineAnswer req
  else record [("error", .text "BadRequest"), ("message", .text ("unknown op " ++ op.repr))]

def answerLine (line : Text) : Value :=
  match Json.parse line with
  | .ok req => answer req
  | .error _ => record [("error", .text "BadRequest"), ("message", .text "unreadable request")]

end Request

end TermSnap
