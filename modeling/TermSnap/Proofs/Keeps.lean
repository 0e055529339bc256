import TermSnap.Terminal.Write
/-!
# Properties an operation keeps

A fault stops an operation but keeps what it changed before it, so `Keeps P m` asks for `P` after
`m` from every state with `P`, whether `m` returns or fails. It is closed under binding and passes
through the loops of the terminal.
-/

namespace TermSnap

/-- The state an operation ended in, whether it returned or failed. -/
def finalState {ε σ α : Type} : EStateM.Result ε σ α → σ
  | .ok _ s => s
  | .error _ s => s

theorem bind_ok_of {ε σ α β : Type} {m : EStateM ε σ α} {f : α → EStateM ε σ β} {t t' : σ}
    {a : α} (h : m t = .ok a t') : (m >>= f) t = f a t' := by
  change EStateM.bind m f t = _
  simp only [EStateM.bind, h]

theorem bind_error_of {ε σ α β : Type} {m : EStateM ε σ α} {f : α → EStateM ε σ β} {t t' : σ}
    {e : ε} (h : m t = .error e t') : (m >>= f) t = .error e t' := by
  change EStateM.bind m f t = _
  simp only [EStateM.bind, h]

theorem Except.ok_bind {ε α β : Type} (a : α) (f : α → Except ε β) :
    (Except.ok a >>= f) = f a := rfl

theorem Except.error_bind {ε α β : Type} (e : ε) (f : α → Except ε β) :
    (Except.error e >>= f) = .error e := rfl

/-- `m` ends in a state with `P` from every state with `P`, whether it returns or fails. -/
def Keeps {ε σ α : Type} (P : σ → Prop) (m : EStateM ε σ α) : Prop :=
  ∀ s, P s → P (finalState (m s))

namespace Keeps

variable {ε σ α β : Type} {P : σ → Prop}

theorem pure (a : α) : Keeps P (Pure.pure a : EStateM ε σ α) := fun _ h => h

theorem throw (e : ε) : Keeps P (throw e : EStateM ε σ α) := fun _ h => h

theorem bind {m : EStateM ε σ α} {f : α → EStateM ε σ β} (hm : Keeps P m)
    (hf : ∀ a, Keeps P (f a)) : Keeps P (m >>= f) := by
  intro s hs
  have h := hm s hs
  show P (finalState (match m s with
    | .ok a s => f a s
    | .error e s => .error e s))
  cases hms : m s with
  | ok a s' =>
    rw [hms] at h
    exact hf a s' h
  | error e s' =>
    rw [hms] at h
    exact h

theorem throw_bind (e : ε) (f : α → EStateM ε σ β) : Keeps P (MonadExcept.throw e >>= f) :=
  fun _ h => h

theorem get : Keeps P (MonadState.get : EStateM ε σ σ) := fun _ h => h

theorem ite {c : Prop} [Decidable c] {a b : EStateM ε σ α} (ha : Keeps P a) (hb : Keeps P b) :
    Keeps P (if c then a else b) := by
  by_cases h : c
  · rw [if_pos h]
    exact ha
  · rw [if_neg h]
    exact hb

theorem modify {f : σ → σ} (hf : ∀ s, P s → P (f s)) :
    Keeps P (MonadState.modifyGet fun s => ((), f s) : EStateM ε σ Unit) :=
  fun s h => hf s h

end Keeps

namespace Screen

theorem keeps_lift {P : Screen → Prop} {α : Type} (e : Except Fault α) : Keeps P (Screen.lift e) := by
  cases e with
  | ok a => exact Keeps.pure a
  | error f => exact Keeps.throw f

end Screen

namespace Terminal

variable {P : Screen → Prop}

/-- A screen step keeps a property of the terminal's screen when it keeps it of the screen. -/
theorem keeps_onScreen {α : Type} {step : Screen.Step α} (h : Keeps P step) :
    Keeps (fun t : Terminal => P t.screen) (onScreen step) := by
  intro t ht
  have h' := h t.screen ht
  unfold onScreen
  cases hs : step t.screen with
  | ok a s => rw [hs] at h'; exact h'
  | error e s => rw [hs] at h'; exact h'

theorem keeps_lift {Q : Terminal → Prop} {α : Type} (e : Except Fault α) : Keeps Q (lift e) := by
  cases e with
  | ok a => exact Keeps.pure a
  | error f => exact Keeps.throw f

theorem keeps_note (n : Notice) : Keeps (fun t : Terminal => P t.screen) (note n) :=
  fun _ h => h

/-- Printing glyphs keeps what printing each of them keeps. -/
theorem keeps_printGlyphs {Q : Terminal → Prop} (gs : List Value)
    (h : ∀ g ∈ gs, Keeps Q (printGlyph g)) : Keeps Q (printGlyphs gs) := by
  induction gs with
  | nil => exact Keeps.pure ()
  | cons g gs ih =>
    exact Keeps.bind (h g List.mem_cons_self) fun _ =>
      ih fun g' hg' => h g' (List.mem_cons_of_mem _ hg')

/-- Carrying out tokens keeps what carrying out each of them keeps. -/
theorem keeps_applyAll {Q : Terminal → Prop} (ts : List Token)
    (h : ∀ tok ∈ ts, Keeps Q (apply tok)) : Keeps Q (applyAll ts) := by
  induction ts with
  | nil => exact Keeps.pure ()
  | cons tok ts ih =>
    exact Keeps.bind (h tok List.mem_cons_self) fun _ =>
      ih fun t' ht' => h t' (List.mem_cons_of_mem _ ht')

end Terminal

namespace Screen

variable {P : Screen → Prop}

theorem keeps_blankRun (y : Value) (h : ∀ x : Int, Keeps P (put (.int x) y (.text " ")))
    (x0 x1 : Int) : Keeps P (blankRun y x0 x1) := by
  induction x0 using blankRun.induct x1 with
  | case1 x0 hlt ih =>
    rw [blankRun, dif_pos hlt]
    exact Keeps.bind (h x0) fun _ => ih
  | case2 x0 hlt =>
    rw [blankRun, dif_neg hlt]
    exact Keeps.pure ()

theorem keeps_blankRows (h : ∀ x y : Int, Keeps P (put (.int x) (.int y) (.text " ")))
    (y0 y1 : Int) : Keeps P (blankRows y0 y1) := by
  intro s hs
  induction y0, s using blankRows.induct y1 with
  | case1 y0 s hlt e he =>
    rw [blankRows, dif_pos hlt, he]
    exact hs
  | case2 y0 s hlt w hw hw0 =>
    simp only [blankRows, dif_pos hlt, hw, if_pos hw0]
    exact hs
  | case3 y0 s hlt w hw hw0 ih =>
    simp only [blankRows, dif_pos hlt, hw, if_neg hw0]
    exact Keeps.bind (keeps_blankRun _ (fun x => h x y0) _ _) (fun _ s' hs' => ih s' hs') s hs
  | case4 y0 s hlt =>
    rw [blankRows, dif_neg hlt]
    exact hs

end Screen

end TermSnap
