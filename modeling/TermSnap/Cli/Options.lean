import TermSnap.Text.Numeral
import TermSnap.Fault
import TermSnap.Number.Binary
/-!
# Command-line options

One recording path and the options `-n`/`--height`, `-t`/`--timestamp`, `-v`/`--verbose`,
`-r`/`--renderer` and `-h`/`--help`. Arguments are first classified one by one: after `--` all are
plain; a long option may be any prefix naming one option; short options may be attached, each
letter naming one; a negative number is plain. Then they are used left to right, and `-h` stops at
once. An argument need not be text: a false value is plain, and a list is read by its first item.
-/

namespace TermSnap.Cli

/-- The options. -/
inductive Flag where
  | help
  | height
  | timestamp
  | verbose
  | renderer
deriving Repr, DecidableEq

def Flag.takesValue : Flag → Bool
  | .help | .verbose => false
  | _ => true

/-- The spellings of the options, in the order they are tried. -/
def spellings : List (String × Flag) :=
  [("-h", .help), ("--help", .help), ("-n", .height), ("--height", .height),
   ("-t", .timestamp), ("--timestamp", .timestamp), ("-v", .verbose), ("--verbose", .verbose),
   ("-r", .renderer), ("--renderer", .renderer)]

/-- The spelling and the option an argument is exactly. -/
def spelled? (s : Text) : Option (String × Flag) :=
  spellings.find? fun (sp, _) => Text.ofString sp = s

/-- Why reading the command line stops before the recording is read. -/
inductive Halt where
  /-- The program exits with this code: 2 for a usage error, 0 after the help text. -/
  | exit (code : Nat)
  /-- The reading itself fails. -/
  | fault (f : Fault)

/-- How an argument reads. -/
inductive Word where
  /-- A plain argument. -/
  | plain (arg : Value)
  /-- The argument `--`, after which every argument is plain. -/
  | separator
  /-- A known option, spelled `spelling`, perhaps with text attached: after `=`, or straight
  after a short option. -/
  | flag (f : Flag) (spelling : String) (attached : Option Text)
  /-- An argument that looks like an option but names none. -/
  | unknown (text : Text)

def Word.isOption : Word → Bool
  | .flag .. | .unknown _ => true
  | _ => false

/-- The argument a word was read from, as the usage error lists it. -/
def Word.argument : Word → Value
  | .plain v => v
  | .separator => .text "--"
  | .flag _ sp none => .text sp
  | .flag _ sp (some a) => .str (Text.ofString sp ++ a)
  | .unknown t => .str t

/-- Whether an argument looks like a negative number, perhaps with one line feed after. -/
def looksNegative (s : Text) : Bool :=
  match s with
  | .char '-' :: rest =>
    let body := if rest.getLast? = some (.char '\n') then rest.dropLast else rest
    let ds := body.takeWhile Text.isDigit
    let after := body.dropWhile Text.isDigit
    match after with
    | [] => !ds.isEmpty
    | .char '.' :: frac => !frac.isEmpty && frac.all Text.isDigit
    | _ => false
  | _ => false

def notEquals (p : Point) : Bool := !p.is '='

/-- The readings of an argument as a prefix of an option or a short option with more after it. -/
def readings (s : Text) : List (Flag × String × Option Text) :=
  if s.take 2 = Text.ofString "--" then
    let pre := s.takeWhile notEquals
    let attached := if s.any (·.is '=') then some (s.dropWhile notEquals).tail else none
    spellings.filterMap fun (sp, f) =>
      if pre.isPrefixOf (Text.ofString sp) then some (f, sp, attached) else none
  else
    let short := s.take 2
    spellings.filterMap fun (sp, f) =>
      if Text.ofString sp = short then some (f, sp, some (s.drop 2))
      else if s.isPrefixOf (Text.ofString sp) then some (f, sp, none)
      else none

/-- Reads one text argument that comes before any `--`; `none` for an ambiguous prefix. -/
def classifyText (s : Text) : Option Word :=
  if s.head? ≠ some (.char '-') then some (.plain (.str s))
  else match spelled? s with
  | some (sp, f) => some (.flag f sp none)
  | none =>
    if s.length = 1 then some (.plain (.str s))
    else
      match (if s.any (·.is '=') then spelled? (s.takeWhile notEquals) else none) with
      | some (sp, f) => some (.flag f sp (some (s.dropWhile notEquals).tail))
      | none =>
        match readings s with
        | [(f, sp, a)] => some (.flag f sp a)
        | _ :: _ :: _ => none
        | [] =>
          if looksNegative s || s.any (·.is ' ') then some (.plain (.str s)) else some (.unknown s)

/-- Reads one argument that comes before any `--`: text as `classifyText` says; a false value is
plain; a list is looked up by its first item when that is `""` or `-`, and is otherwise plain. -/
def classify : Value → Except Halt Word
  | .str s =>
    match classifyText s with
    | some w => .ok w
    | none => .error (.exit 2)
  | v =>
    if !v.truthy then .ok (.plain v)
    else
      match v with
      | .array (.str t :: _) =>
        if t.isEmpty || t = Text.ofString "-" then .error (.fault (.unhashable v.kind))
        else .ok (.plain v)
      | .array (e :: _) => .error (.fault (.notSubstring e.kind))
      | .object _ => .error (.fault (.missingKey (.int 0)))
      | .tuple _ | .array [] => .ok (.plain v)
      | v => .error (.fault (.notSubscriptable v.kind))

/-- Reads all arguments in order; after `--` every argument is plain. -/
def classifyAll : List Value → Except Halt (List Word)
  | [] => .ok []
  | s :: rest =>
    if s.isText "--" then .ok (.separator :: rest.map .plain)
    else do
      let w ← classify s
      let ws ← classifyAll rest
      pure (w :: ws)

/-- The options as far as they are read. -/
structure Options where
  recording : Option Value
  height : Option Int
  timestamp : Option Float
  verbose : Nat
  renderer : String
  /-- The arguments not used, in order. -/
  extras : List Value

def Options.initial : Options := ⟨none, none, none, 0, "latex", []⟩

/-- The integer of an option's value as the integer conversion gives it: a numeral, a truth value
as 0 or 1, a double cut toward zero. -/
def integerOf? : Value → Option Int
  | .str t => (Text.readInt t).toOption
  | .int n => some n
  | .bool b => some (if b then 1 else 0)
  | .float x => if x < 0 then Number.ceil? x else (Number.ceil? (-x)).map (- ·)
  | _ => none

def doubleOf? : Value → Option Float
  | .str t => Text.readFloat t
  | .int n => some (Float.ofInt n)
  | .bool b => some (if b then 1 else 0)
  | .float x => some x
  | _ => none

/-- Uses an option with its value, or stops: help ends the program, and a value the option cannot
convert is a usage error. -/
def Options.take (o : Options) : Flag × Option Value → Except Halt Options
  | (.help, _) => .error (.exit 0)
  | (.verbose, _) => .ok { o with verbose := o.verbose + 1 }
  | (.height, v) =>
    match v >>= integerOf? with
    | some n => .ok { o with height := some n }
    | none => .error (.exit 2)
  | (.timestamp, v) =>
    match v >>= doubleOf? with
    | some x => .ok { o with timestamp := some x }
    | none => .error (.exit 2)
  | (.renderer, v) =>
    let name := v.getD .null
    match name.unhashable? with
    | some k => .error (.fault (.unhashable k))
    | none =>
      if name.isText "term" then .ok { o with renderer := "term" }
      else if name.isText "latex" then .ok { o with renderer := "latex" }
      else .error (.exit 2)

def Options.takeAll (o : Options) : List (Flag × Option Value) → Except Halt Options
  | [] => .ok o
  | p :: ps => do (← o.take p).takeAll ps

/-- What an option word gives: the options found with their values, and how many of the
following arguments it used. -/
abbrev Taken := List (Flag × Option Value) × Nat

/-- How much text is attached to an option: none, or one more than its length. -/
def attachedSize : Option Text → Nat
  | none => 0
  | some cs => cs.length + 1

theorem attachedSize_rest (c : Point) (more : Text) :
    attachedSize (if more.isEmpty then none else some more) < attachedSize (some (c :: more)) := by
  cases more <;> simp [attachedSize]

/-- What option `f` spelled `sp` gives, `attached` the text after it in the same argument: its
value, or further short options read from the attached text. -/
def takeFlag (f : Flag) (sp : String) (rest : List Word) : Option Text → Except Halt Taken
  | none =>
    if f.takesValue then
      match rest with
      | .plain v :: _ => .ok ([(f, some v)], 1)
      | _ => .error (.exit 2)
    else .ok ([(f, none)], 0)
  | some attached =>
    if f.takesValue then .ok ([(f, some (.str attached))], 0)
    else if sp.toList.take 2 = ['-', '-'] then .error (.exit 2)
    else
      match attached with
      | [] => .error (.exit 2)
      | c :: more =>
        match spelled? [.char '-', c] with
        | none => .error (.exit 2)
        | some (sp', f') =>
          match takeFlag f' sp' rest (if more.isEmpty then none else some more) with
          | .ok (taken, used) => .ok ((f, none) :: taken, used)
          | .error e => .error e
termination_by attached => attachedSize attached
decreasing_by exact attachedSize_rest c more

/-- Uses the path if it is not set yet and the arguments start with it, perhaps with a `--`
before or after; `none` when nothing is used. -/
def takePath (o : Options) : List Word → Option (Options × List Word)
  | .separator :: .plain p :: rest
  | .plain p :: .separator :: rest
  | .plain p :: rest =>
    if o.recording.isNone then some ({ o with recording := some p }, rest) else none
  | _ => none

theorem length_takePath {o o' : Options} {ws rest : List Word}
    (h : takePath o ws = some (o', rest)) : rest.length < ws.length := by
  unfold takePath at h
  split at h <;> (try split at h) <;> cases h <;> simp only [List.length_cons] <;> omega

theorem length_drop_lt_succ {α : Type} (l : List α) (n : Nat) :
    (l.drop n).length < l.length + 1 :=
  Nat.lt_succ_of_le (List.drop_sublist n l).length_le

theorem length_dropWhile_lt_succ {α : Type} (p : α → Bool) (l : List α) :
    (l.dropWhile p).length < l.length + 1 :=
  Nat.lt_succ_of_le (List.dropWhile_suffix p).length_le

/-- Uses the arguments from left to right. -/
def Options.consume (o : Options) (ws : List Word) : Except Halt Options :=
  if ws.any Word.isOption then
    match ws with
    | [] => .ok o
    | .unknown t :: rest => { o with extras := o.extras ++ [Value.str t] }.consume rest
    | .flag f sp a :: rest =>
      match takeFlag f sp rest a with
      | .ok (taken, used) =>
        have : (rest.drop used).length < rest.length + 1 := length_drop_lt_succ rest used
        match o.takeAll taken with
        | .ok o' => o'.consume (rest.drop used)
        | .error e => .error e
      | .error e => .error e
    | w :: rest =>
      match h : takePath o (w :: rest) with
      | some (o', rest') =>
        have : rest'.length < rest.length + 1 := length_takePath h
        o'.consume rest'
      | none =>
        have : (rest.dropWhile (fun w => !w.isOption)).length < rest.length + 1 :=
          length_dropWhile_lt_succ _ rest
        let skipped := w :: rest.takeWhile fun w => !w.isOption
        { o with extras := o.extras ++ skipped.map Word.argument }.consume
          (rest.dropWhile fun w => !w.isOption)
  else
    match takePath o ws with
    | some (o', rest) => .ok { o' with extras := o'.extras ++ rest.map Word.argument }
    | none => .ok { o with extras := o.extras ++ ws.map Word.argument }
termination_by ws.length
decreasing_by
  · exact Nat.lt_succ_self rest.length
  · exact this
  · exact this
  · exact this

end TermSnap.Cli
