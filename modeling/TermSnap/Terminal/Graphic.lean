import TermSnap.Terminal.Basic
import TermSnap.Text.Digit
/-!
# Graphic rendition

A rendition sequence sets the pen colour from the runs of digits in its parameters: 30 to 37 pick
palette entries, 0, 22 and 39 the default, `38;5` entry 5 and `38` with three more codes a triple.
-/

namespace TermSnap

/-- The maximal runs of decimal digits in a text, in order. -/
def digitRuns (cs : Text) : List Text :=
  match h : cs.dropWhile (fun c => !Text.isDigit c) with
  | [] => []
  | c :: rest =>
    have : (rest.dropWhile Text.isDigit).length < cs.length := by
      have h1 := (List.dropWhile_suffix (fun c => !Text.isDigit c) (l := cs)).length_le
      have h2 := (List.dropWhile_suffix Text.isDigit (l := rest)).length_le
      rw [h] at h1; simp only [List.length_cons] at h1; omega
    (c :: rest.takeWhile Text.isDigit) :: digitRuns (rest.dropWhile Text.isDigit)
termination_by cs.length

/-- What a graphic rendition code does. -/
inductive Rendition where
  /-- Restores the default colour. -/
  | reset
  /-- Picks a palette entry. -/
  | palette (index : Int)
  /-- Starts an extended colour, whose form the following codes give. -/
  | extended
  /-- An attribute that the screen does not keep. -/
  | ignored
  /-- A code with no meaning. -/
  | unknown (code : Int)
deriving Repr, DecidableEq

def Rendition.ofCode (n : Int) : Rendition :=
  if n = 0 ∨ n = 22 ∨ n = 39 then .reset
  else if n = 1 ∨ n = 4 ∨ n = 7 ∨ n = 24 ∨ n = 27 ∨ n = 48 ∨ (40 ≤ n ∧ n ≤ 47) then
    .ignored
  else if 30 ≤ n ∧ n ≤ 37 then .palette (n - 30)
  else if n = 38 then .extended
  else .unknown n

namespace Terminal

def setPen (c : Value) : M Unit := onScreen (Screen.setPen c)

def renditions : List Int → M Unit
  | [] => pure ()
  | n :: rest =>
    match Rendition.ofCode n with
    | .reset => do setPen .null; renditions rest
    | .palette i => do setPen (.int i); renditions rest
    | .ignored => renditions rest
    | .unknown code => do note (.unknownGraphic code); renditions rest
    | .extended =>
      match rest with
      | m :: r =>
        if m = 5 then do setPen (.int 5); renditions r
        else
          match r with
          | a :: b :: more => do setPen (.tuple [.int m, .int a, .int b]); renditions more
          | [a] => do note .badColour; renditions [m, a]
          | [] => do note .badColour; renditions [m]
      | [] => do note .badColour; renditions []
termination_by codes => codes.length

/-- Carries out a graphic rendition sequence with parameters `params`. -/
def graphic (params : Value) : M Unit :=
  if params.isText "0" || params.isText "" then setPen .null
  else
    match params with
    | .str t => do renditions (← lift ((digitRuns t).mapM readCount))
    | v => throw (.notText v.kind)

end Terminal

end TermSnap
