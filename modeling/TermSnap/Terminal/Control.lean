import TermSnap.Terminal.Graphic
/-!
# Control sequences

A control sequence names its function by its last element. `m` sets the rendition, `J` and `K`
erase, `A` to `G` move by a count (1 when empty), and `H` and `f` move by the first two fields less
one each, as a relative step. Any other function makes a notice.
-/

namespace TermSnap

def skipSemicolon : Text → Text
  | .char ';' :: r => r
  | r => r

theorem length_skipSemicolon (r : Text) : (skipSemicolon r).length ≤ r.length := by
  unfold skipSemicolon; split <;> simp

theorem length_skipSemicolon_digits (rest : Text) :
    (skipSemicolon (rest.dropWhile Text.isDigit)).length < rest.length + 1 :=
  Nat.lt_succ_of_le
    (Nat.le_trans (length_skipSemicolon _) (List.dropWhile_suffix Text.isDigit).length_le)

/-- The fields of a positioning sequence: runs of digits, each closed by a semicolon or any other
code point, and one more for the end of the text. -/
def positionFields : Text → List Text
  | [] => [[]]
  | c :: rest =>
    if Text.isDigit c then
      have : (skipSemicolon (rest.dropWhile Text.isDigit)).length < rest.length + 1 :=
        length_skipSemicolon_digits rest
      (c :: rest.takeWhile Text.isDigit) ::
        positionFields (skipSemicolon (rest.dropWhile Text.isDigit))
    else [] :: positionFields rest
termination_by cs => cs.length

/-- The number a field stands for: 1 when empty. -/
def fieldValue (field : Text) : Except Fault Int :=
  if field.isEmpty then .ok 1 else readCount field

/-- The count of a cursor motion: 1 for the empty text, otherwise the parameters read as an
integer numeral. -/
def motionCount (params : Value) : Except Fault Int :=
  if params.isText "" then .ok 1
  else
    match params with
    | .str t => readCount t
    | v => .error (.intArgument v.kind)

namespace Terminal

def moveBy (dx dy : Value) : M Unit := onScreen (Screen.move dx dy)

def negatedColumn : M Value := do lift (← column).neg

/-- Carries out the control function `final` with parameters `params`. -/
def control (params final : Value) : M Unit :=
  if final.isText "m" then graphic params
  else if final.isText "J" || final.isText "K" then onScreen (Screen.erase final params)
  else if final.isText "A" then do moveBy (.int 0) (.int (-(← lift (motionCount params))))
  else if final.isText "B" then do moveBy (.int 0) (.int (← lift (motionCount params)))
  else if final.isText "C" then do moveBy (.int (← lift (motionCount params))) (.int 0)
  else if final.isText "D" then do moveBy (.int (-(← lift (motionCount params)))) (.int 0)
  else if final.isText "E" then do
    let x ← negatedColumn
    moveBy x (.int (← lift (motionCount params)))
  else if final.isText "F" then do
    let x ← negatedColumn
    moveBy x (.int (-(← lift (motionCount params))))
  else if final.isText "G" then do
    let n ← lift (motionCount params)
    moveBy (← lift ((Value.int n).sub (← column))) (.int 0)
  else if final.isText "H" || final.isText "f" then do
    let fields ← match params with
      | .str t => pure (positionFields t)
      | v => throw (.notText v.kind)
    let values ← lift (fields.mapM fieldValue)
    match values with
    | [] => moveBy (.int 0) (.int 0)
    | [a] => moveBy (.int (a - 1)) (.int 0)
    | a :: b :: _ => moveBy (.int (a - 1)) (.int (b - 1))
  else note (.unknownControl final)

/-- Carries out a control sequence, its last element naming the function. -/
def controlSequence (seq : Value) : M Unit := do
  let (final, params) ← lift seq.splitLast
  control params final

end Terminal

end TermSnap
