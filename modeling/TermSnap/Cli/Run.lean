import TermSnap.Cli.Options
import TermSnap.Cli.Path
import TermSnap.Recording.Export
/-!
# Running the command line

`Cli.run` reads the options, reads the recording from the path it names, with line ends made
uniform, and prints its screen at the requested time in the requested format.
-/

namespace TermSnap.Cli

/-- How a run of the command line ends. -/
inductive Outcome where
  /-- It printed this text. -/
  | printed (text : Text)
  /-- It stopped with this exit code before reading the recording. -/
  | exit (code : Nat)
  /-- It stopped at a fault. -/
  | failed (fault : Fault)

def usage : String :=
  "usage: termsnap [-h] [-n HEIGHT] [-t TIMESTAMP] [-v] [-r \x7bterm,latex\x7d] asciicast\n"

def help : String :=
  usage ++ "\npositional arguments:\n  asciicast             An existing asciicast\n\n" ++
  "options:\n  -h, --help            show this help message and exit\n" ++
  "  -n HEIGHT, --height HEIGHT\n" ++
  "                        The number of lines to output (default: screen height)\n" ++
  "  -t TIMESTAMP, --timestamp TIMESTAMP\n" ++
  "                        The position to export the screen contents at (default: end)\n" ++
  "  -v, --verbose         Verbose output\n" ++
  "  -r \x7bterm,latex\x7d, --renderer \x7bterm,latex\x7d\n" ++
  "                        Output renderer (default: latex)\n"

/-- Line ends made uniform: `\r\n` and a lone `\r` become `\n`. -/
def uniformLines : Text → Text
  | .char '\r' :: .char '\n' :: rest => .char '\n' :: uniformLines rest
  | .char '\r' :: rest => .char '\n' :: uniformLines rest
  | c :: rest => c :: uniformLines rest
  | [] => []

/-- The options of an argument list, or the exit code that ends the program. -/
def parse (args : List Value) : Except Halt Options := do
  let ws ← classifyAll args
  let o ← Options.initial.consume ws
  if o.recording.isNone then throw (.exit 2)
  match o.extras.findIdx? (fun v => !(v matches .str _)) with
  | some i => throw (.fault (.joinItem i ((o.extras[i]?.map Value.kind).getD .none)))
  | none => if o.extras.isEmpty then pure o else throw (.exit 2)

/-- Runs the command line on arguments, reading files through `files`. -/
def run (args : List Value) (files : Text → Option Text) : Outcome :=
  match parse args with
  | .error (.exit code) => .exit code
  | .error (.fault f) => .failed f
  | .ok o =>
    let text : Except Fault Text := match o.recording.getD .null with
      | .str path =>
        match files path with
        | some t => .ok t
        | none => openSystemPath path
      | .int n => openDescriptor .int n
      | .bool b => openDescriptor .bool (if b then 1 else 0)
      | v => .error (.notAPath v.kind)
    match text with
    | .error f => .failed f
    | .ok text =>
      let format := if o.renderer = "term" then Format.ansi else Format.latex
      let height := match o.height with
        | some n => Value.int n
        | none => .null
      let limit := match o.timestamp with
        | some x => Value.float x
        | none => .null
      match snapshot (.str (uniformLines text)) height limit format (0 < o.verbose) with
      | .ok out => .printed out
      | .error f => .failed f

end TermSnap.Cli
