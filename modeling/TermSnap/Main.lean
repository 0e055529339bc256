import TermSnap.Cli.Run
/-!
# The program

Reads the command line and the recording it names, and prints the exported screen; a usage error
exits with code 2 and a fault with code 1.
-/

open TermSnap

/-- The text of a file, or `none` when it cannot be read. -/
def readText (path : String) : IO (Option Text) := do
  try
    let text ← IO.FS.readFile path
    pure (some (Text.ofString text))
  catch _ =>
    pure none

def main (args : List String) : IO UInt32 := do
  let args := args.map fun a => Value.str (Text.ofString a)
  let file ← match Cli.parse args with
    | .ok o =>
      match o.recording with
      | some (.str path) => do
        let text ← readText path.toStringLossy
        pure (text.map fun t => (path, t))
      | _ => pure none
    | .error _ => pure none
  match Cli.run args (fun p => match file with
      | some (path, t) => if p = path then some t else none
      | none => none) with
  | .printed out =>
    IO.print out.toStringLossy
    pure 0
  | .exit 0 =>
    IO.print Cli.help
    pure 0
  | .exit code =>
    IO.eprint Cli.usage
    pure code.toUInt32
  | .failed f =>
    IO.eprintln (f.category ++ ": " ++ f.message)
    pure 1
