import TermSnap.Cli.Options
import TermSnap.Cli.Path
import TermSnap.Cli.Run
import TermSnap.Console
import TermSnap.Escape.Token
import TermSnap.Fault
import TermSnap.Json.Reader
import TermSnap.Json.Writer
import TermSnap.Main
import TermSnap.Number.Binary
import TermSnap.Number.Shortest
import TermSnap.Proofs.Acceptance
import TermSnap.Proofs.ColourRuns
import TermSnap.Proofs.Colours
import TermSnap.Proofs.Commands
import TermSnap.Proofs.Erasing
import TermSnap.Proofs.Keeps
import TermSnap.Proofs.LineEnds
import TermSnap.Proofs.Motion
import TermSnap.Proofs.Numerals
import TermSnap.Proofs.Playback
import TermSnap.Proofs.Positioning
import TermSnap.Proofs.Scrolling
import TermSnap.Proofs.Splitting
import TermSnap.Proofs.Tape
import TermSnap.Proofs.TexReading
import TermSnap.Proofs.Tokens
import TermSnap.Proofs.Typesetting
import TermSnap.Proofs.WellFormed
import TermSnap.Recording.Export
import TermSnap.Render
import TermSnap.Request
import TermSnap.Screen.Basic
import TermSnap.Screen.Cursor
import TermSnap.Screen.Erase
import TermSnap.Screen.ScrollLoop
import TermSnap.Terminal.Basic
import TermSnap.Terminal.Control
import TermSnap.Terminal.Graphic
import TermSnap.Terminal.Write
import TermSnap.Text.Blank
import TermSnap.Text.Digit
import TermSnap.Text.Numeral
import TermSnap.Text.Point
import TermSnap.Text.Quoted
import TermSnap.Value.Access
import TermSnap.Value.Arith
import TermSnap.Value.Basic
import TermSnap.Value.Order
import TermSnap.Value.Show
