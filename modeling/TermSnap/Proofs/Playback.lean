import Mathlib.Data.Nat.Digits.Defs
import Mathlib.Data.List.TakeDrop
import TermSnap.Proofs.WellFormed
import TermSnap.Proofs.Splitting
import TermSnap.Recording.Export
import TermSnap.Json.Reader
/-!
# Which frames an export plays

Export plays frames on a blank screen while the clock, the running sum of the delays, is below the
time limit; the delay is added before the comparison, so the frame that reaches the limit is not
played. With integer delays the frames played are the first `k`, `k` the number of clock times
below the limit (`export_plays_frames_below_limit`).
-/

namespace TermSnap

/-- Whether the clock at the integer time `S` has reached the limit `lim`, exactly, also against a
double; a NaN limit is never reached. -/
def Num.reachedBy (lim : Num) (S : Int) : Bool :=
  match Num.order (.int S) lim with
  | some o => o != .lt
  | none => false

namespace Num

@[simp] theorem reachedBy_int (l S : Int) : (Num.int l).reachedBy S = decide (l ≤ S) := by
  show ((if S < l then Ordering.lt else if l < S then .gt else .eq) != .lt) = _
  by_cases h1 : S < l
  · rw [if_pos h1]
    simpa using h1
  · have h2 : l ≤ S := by omega
    rw [if_neg h1]
    split_ifs <;> simp [h2]

theorem compare_ne_lt_mono {a b c : Int} (h : (compare a c != .lt) = true) (hab : a ≤ b) :
    (compare b c != .lt) = true := by
  simp only [bne_iff_ne, ne_eq, compare_lt_iff_lt, not_lt] at h ⊢
  omega

/-- The clock only grows, so a limit once reached stays reached. -/
theorem reachedBy_mono {lim : Num} {S S' : Int} (h : lim.reachedBy S = true) (hS : S ≤ S') :
    lim.reachedBy S' = true := by
  cases lim with
  | int l =>
    simp only [reachedBy_int, decide_eq_true_eq] at h ⊢
    omega
  | float x =>
    simp only [reachedBy, order, Number.compareInt] at h ⊢
    cases hx : Number.shape x with
    | nan => simp [hx] at h
    | infinite negative => simpa [hx] using h
    | finite negative m e =>
      simp only [hx, Number.compareFinite, Number.compareScaled] at h ⊢
      by_cases he : 0 ≤ e
      · rw [if_pos he] at h ⊢
        exact compare_ne_lt_mono h hS
      · -- below one the double is `v / 2 ^ k`, compared by scaling the integer by `2 ^ k`
        rw [if_neg he] at h ⊢
        have hpos : 0 < Int.pow 2 (-e).toNat := by
          rw [Int.pow_eq]
          positivity
        exact compare_ne_lt_mono h (Int.mul_le_mul_of_nonneg_right hS hpos.le)

end Num

theorem Value.isAtLeast_of_num {L : Value} {lim : Num} (hL : L.num? = some lim) (S : Int) :
    (Value.int S).isAtLeast L = .ok (lim.reachedBy S) := by
  unfold isAtLeast compareBy
  rw [show (Value.int S).num? = some (.int S) from rfl, hL]
  show Except.ok (match Num.order (.int S) lim with
    | some o => Comparison.atLeast.holds o
    | none => false) = _
  unfold Num.reachedBy
  cases Num.order (.int S) lim <;> rfl

namespace Recording

/-- A frame with integer delay `d` and output `o`, as a recording's document holds it. -/
def frame (f : Nat × Text) : Value := .array [.int f.1, .str f.2]

def clockTimes (c : Int) : List Nat → List Int
  | [] => []
  | d :: ds => (c + d) :: clockTimes (c + d) ds

/-- How many frames are played from time `c` towards `lim`: the clock times below it. -/
def framesPlayed (lim : Num) (c : Int) (ds : List Nat) : Nat :=
  (clockTimes c ds).countP fun S => !lim.reachedBy S

/-- The rendering of a blank screen after the outputs `outs` are written in turn, or the fault of
the first write that fails. -/
def exportAfter (format : Format) (W H : Nat) (outs : List Text) : Except Fault Text :=
  match forM outs Terminal.write (Terminal.ofScreen (Screen.blank (.int W) (.int H) W)) with
  | .ok _ t => .ok (format.render t.screen).1
  | .error e _ => .error e

theorem clockTimes_bounds {c : Int} {ds : List Nat} :
    ∀ S ∈ clockTimes c ds, c ≤ S ∧ S ≤ c + ds.sum := by
  induction ds generalizing c with
  | nil => nofun
  | cons d ds ih =>
    intro S hS
    rcases List.mem_cons.mp hS with rfl | hS
    · simp only [List.sum_cons, Nat.cast_add]
      omega
    · have := ih S hS
      simp only [List.sum_cons, Nat.cast_add]
      omega

theorem total_mem_clockTimes {c : Int} {ds : List Nat} (h : ds ≠ []) :
    c + ds.sum ∈ clockTimes c ds := by
  induction ds generalizing c with
  | nil => exact absurd rfl h
  | cons d ds ih =>
    rw [clockTimes, List.sum_cons, Nat.cast_add, ← Int.add_assoc]
    rcases ds with _ | ⟨d', ds'⟩
    · simp
    · exact List.mem_cons_of_mem _ (ih (List.cons_ne_nil _ _))

theorem framesPlayed_cons_reached {lim : Num} {c : Int} {d : Nat} {ds : List Nat}
    (h : lim.reachedBy (c + d) = true) : framesPlayed lim c (d :: ds) = 0 := by
  rw [framesPlayed, List.countP_eq_zero]
  intro S hS
  have hreach : lim.reachedBy S = true := by
    rcases List.mem_cons.mp hS with rfl | hS
    · exact h
    · exact Num.reachedBy_mono h (clockTimes_bounds S hS).1
  simp [hreach]

theorem framesPlayed_cons_unreached {lim : Num} {c : Int} {d : Nat} {ds : List Nat}
    (h : lim.reachedBy (c + d) = false) :
    framesPlayed lim c (d :: ds) = framesPlayed lim (c + d) ds + 1 := by
  simp [framesPlayed, clockTimes, h]

@[simp] theorem length_clockTimes (c : Int) (ds : List Nat) :
    (clockTimes c ds).length = ds.length := by
  induction ds generalizing c with
  | nil => rfl
  | cons d ds ih => simp [clockTimes, ih]

theorem framesPlayed_eq_length_iff {lim : Num} {ds : List Nat} :
    framesPlayed lim 0 ds = ds.length ↔ ds = [] ∨ lim.reachedBy ds.sum = false := by
  rw [framesPlayed, ← length_clockTimes 0 ds, List.countP_eq_length]
  constructor
  · intro hall
    by_cases hds : ds = []
    · exact .inl hds
    · -- the clock after the last frame is one of the clock times
      have hlast := hall _ (total_mem_clockTimes hds)
      right
      simpa using hlast
  · rintro (rfl | hnot) S hS
    · simp [clockTimes] at hS
    · -- every clock time is at most the last one, and a reached limit stays reached
      have hle : S ≤ ds.sum := by simpa using (clockTimes_bounds S hS).2
      cases hr : lim.reachedBy S
      · rfl
      · rw [Num.reachedBy_mono hr hle] at hnot
        cases hnot

end Recording

namespace Terminal

theorem replay_frame {L : Value} {lim : Num} (hL : L.num? = some lim) (c : Int) (d : Nat)
    (o : Text) (rest : List Value) (t : Terminal) :
    replay L (Recording.frame (d, o) :: rest) (.int c) t =
      if lim.reachedBy (c + d) then .ok (.int (c + d)) t
      else (do write o; replay L rest (.int (c + d))) t := by
  rw [replay, lift_bind_ok (show (Recording.frame (d, o)).pair = .ok (.int d, .str o) from rfl)]
  dsimp only
  rw [lift_bind_ok (Value.add_int .binary c d), lift_bind_ok (Value.isAtLeast_of_num hL (c + d))]
  cases lim.reachedBy (c + d) <;> rfl

/-- A replay from time `c` writes the outputs of the frames played, in turn. -/
theorem replay_frames {L : Value} {lim : Num} (hL : L.num? = some lim)
    (frames : List (Nat × Text)) (c : Int) (t : Terminal) :
    ∃ T, c ≤ T ∧ T ≤ c + (frames.map Prod.fst).sum ∧
      replay L (frames.map Recording.frame) (.int c) t =
        (forM ((frames.take (Recording.framesPlayed lim c (frames.map Prod.fst))).map Prod.snd)
          write >>= fun _ => pure (.int T)) t := by
  induction frames generalizing c t with
  | nil => exact ⟨c, le_refl c, by simp, rfl⟩
  | cons f rest ih =>
    obtain ⟨d, o⟩ := f
    simp only [List.map_cons, List.sum_cons, Nat.cast_add]
    rw [replay_frame hL]
    cases hr : lim.reachedBy (c + d)
    · -- the frame is played: its output is written, then the rest is replayed from its time
      rw [if_neg (by simp), Recording.framesPlayed_cons_unreached hr, List.take_succ_cons,
        List.map_cons, List.forM_cons]
      simp only [bind_assoc]
      cases hw : write o t with
      | ok u t' =>
        obtain ⟨T, hT1, hT2, hT⟩ := ih (c + d) t'
        refine ⟨T, by omega, by omega, ?_⟩
        rw [bind_ok_of hw, hT, bind_ok_of hw]
      | error e t' =>
        refine ⟨c + d, by omega, by omega, ?_⟩
        rw [bind_error_of hw, bind_error_of hw]
    · -- the frame reaches the limit: nothing more is played
      refine ⟨c + d, by omega, by omega, ?_⟩
      rw [if_pos rfl, Recording.framesPlayed_cons_reached hr]
      rfl

theorem keeps_forM_write {W H : Nat} (outs : List Text) :
    Keeps (fun t : Terminal => t.screen.WellFormed W H) (forM outs write) := by
  induction outs with
  | nil => exact Keeps.pure ()
  | cons o os ih =>
    rw [List.forM_cons]
    exact Keeps.bind (keeps_write o) fun _ => ih

end Terminal

theorem clockText_of_lt {n : Nat} (h : n < 10 ^ Text.digitLimit) :
    ∃ shown, clockText (.int n) = .ok shown := by
  have hlen : (toString n).length ≤ Text.digitLimit := by
    rw [Nat.toString_eq_ofList_toDigits, String.length_ofList]
    exact Nat.toDigits_length 10 _ _ (by decide) h
  exact ⟨_, by rw [clockText, Int.natAbs_natCast, if_neg (by omega)]⟩

/-- Exporting a document gives the rendering after the outputs of the frames played. -/
theorem exportDocument_frames {doc : Value} {W H : Nat} (hW : 0 < W) (hH : 0 < H)
    (hw : doc.field "width" = .ok (.int W)) (hh : doc.field "height" = .ok (.int H))
    {frames : List (Nat × Text)}
    (hout : doc.field "stdout" = .ok (.array (frames.map Recording.frame)))
    (hsum : (frames.map Prod.fst).sum < 10 ^ Text.digitLimit) {format : Format}
    (hf : ∀ p, Token.isPrintable p = true → ∃ t, format.glyph (.str [p]) = .ok t)
    {L : Value} {lim : Num} (hL : L.num? = some lim) :
    exportDocument doc L format false = Recording.exportAfter format W H
      ((frames.take (Recording.framesPlayed lim 0 (frames.map Prod.fst))).map Prod.snd) := by
  obtain ⟨T, hT0, hT1, hrun⟩ := Terminal.replay_frames hL frames 0
    (Terminal.ofScreen (Screen.blank (.int W) (.int H) W))
  obtain ⟨n, rfl⟩ := Int.eq_ofNat_of_zero_le hT0
  obtain ⟨shown, hshown⟩ := @clockText_of_lt n (Nat.lt_of_le_of_lt (by omega) hsum)
  unfold exportDocument Recording.exportAfter
  rw [hw, Except.ok_bind, hh, Except.ok_bind, Screen.make_int W hH, Except.ok_bind, hout,
    Except.ok_bind, show (Value.array (frames.map Recording.frame)).iterate =
      .ok (frames.map Recording.frame) from rfl, Except.ok_bind, hrun]
  generalize (frames.take (Recording.framesPlayed lim 0 (frames.map Prod.fst))).map Prod.snd = outs
  cases hwr : forM outs Terminal.write (Terminal.ofScreen (Screen.blank (.int W) (.int H) W)) with
  | error e s =>
    rw [bind_error_of hwr]
  | ok u s =>
    -- the screen written to stays well formed, so it renders with no fault
    have hwf : s.screen.WellFormed W H := by
      have := Terminal.keeps_forM_write outs (Terminal.ofScreen (Screen.blank (.int W) (.int H) W))
        (Screen.wellFormed_blank hW hH)
      rwa [hwr] at this
    have hrender := Format.render_ok hwf format hf
    rw [bind_ok_of hwr]
    rcases hr : format.render s.screen with ⟨rendered, fault⟩
    rw [hr] at hrender
    subst hrender
    -- without `verbose` the text is the rendering alone
    simp only [pure, EStateM.pure, hr, hshown, Except.ok_bind, Bool.false_eq_true, ↓reduceIte,
      List.nil_append, List.append_nil]
    rfl

theorem Recording.exportAfter_joined {outs : List Text}
    (h : ∀ o ∈ outs.dropLast, Token.settled o = true) (format : Format) (W H : Nat) :
    Recording.exportAfter format W H outs = Recording.exportAfter format W H [outs.flatten] := by
  have hone : [outs.flatten].forM Terminal.write = Terminal.write outs.flatten := by
    rw [Terminal.forM_write_of_settled (by simp), List.flatten_singleton]
  unfold Recording.exportAfter
  rw [show forM outs Terminal.write = _ from Terminal.forM_write_of_settled h,
    show forM [outs.flatten] Terminal.write = _ from hone]

theorem snapshot_document {text : Text} {doc : Value} (hdoc : Json.parse text = .ok doc)
    {h : Value} (hh : doc.field "height" = .ok h) (height limit : Value) (format : Format)
    (verbose : Bool) :
    snapshot (.str text) height limit format verbose =
      (match limit with | .null => doc.field "duration" | l => pure l) >>= fun L =>
        exportDocument doc L format verbose := by
  have hmap : (Json.parse text).mapError Fault.ofFailure = .ok doc := by
    rw [hdoc]
    rfl
  unfold snapshot
  dsimp only
  rw [pure_bind, hmap, Except.ok_bind]
  -- the height is read only when none is asked for, and then it is there
  cases height
  case null =>
    rw [hh]
    cases limit <;> rfl
  all_goals cases limit <;> rfl

namespace Value

/-! ### Reading a recording text back

A document read from a text is checked against a value by comparing the two part by part; for
values with no doubles in them the comparison decides equality, so a text's reading can be
evaluated and checked. -/

mutual
/-- Whether two values are the same, compared part by part; a double is the same as nothing. -/
def sameAs : Value → Value → Bool
  | .null, .null => true
  | .bool a, .bool b => a == b
  | .int a, .int b => a == b
  | .str a, .str b => a == b
  | .array xs, .array ys => sameItems xs ys
  | .tuple xs, .tuple ys => sameItems xs ys
  | .object ms, .object ns => sameMembers ms ns
  | _, _ => false

def sameItems : List Value → List Value → Bool
  | [], [] => true
  | x :: xs, y :: ys => sameAs x y && sameItems xs ys
  | _, _ => false

def sameMembers : List (Text × Value) → List (Text × Value) → Bool
  | [], [] => true
  | (k, v) :: ms, (k', w) :: ns => k == k' && sameAs v w && sameMembers ms ns
  | _, _ => false
end

mutual
theorem eq_of_sameAs {v w : Value} (h : sameAs v w = true) : v = w := by
  cases v <;> cases w <;> simp only [sameAs, Bool.false_eq_true, beq_iff_eq] at h
  case null.null => rfl
  case bool.bool => rw [h]
  case int.int => rw [h]
  case str.str => rw [h]
  case array.array => rw [eq_of_sameItems h]
  case tuple.tuple => rw [eq_of_sameItems h]
  case object.object => rw [eq_of_sameMembers h]

theorem eq_of_sameItems {xs ys : List Value} (h : sameItems xs ys = true) : xs = ys := by
  cases xs <;> cases ys <;> simp only [sameItems, Bool.false_eq_true, Bool.and_eq_true] at h
  case nil.nil => rfl
  case cons.cons => rw [eq_of_sameAs h.1, eq_of_sameItems h.2]

theorem eq_of_sameMembers {ms ns : List (Text × Value)} (h : sameMembers ms ns = true) :
    ms = ns := by
  cases ms <;> cases ns <;> simp only [sameMembers, Bool.false_eq_true] at h
  case nil.nil => rfl
  case cons.cons m ms n ns =>
    obtain ⟨k, v⟩ := m
    obtain ⟨k', w⟩ := n
    simp only [Bool.and_eq_true, beq_iff_eq] at h
    rw [h.1.1, eq_of_sameAs h.1.2, eq_of_sameMembers h.2]
end

theorem eq_ok_of_sameAs {ε : Type} {e : Except ε Value} {w : Value}
    (h : (match e with | .ok v => v.sameAs w | .error _ => false) = true) : e = .ok w := by
  cases e with
  | ok v => rw [eq_of_sameAs h]
  | error _ => cases h

end Value

theorem limit_given {doc L : Value} (h : L ≠ .null) :
    (match L with | .null => doc.field "duration" | l => pure l) = pure L := by
  cases L
  case null => exact absurd rfl h
  all_goals rfl

/-- Exporting a recording plays its first frames, as many as there are clock times below the
limit; with the duration as the limit every frame is played exactly when the last ends before it. -/
theorem export_plays_frames_below_limit {text : Text} {doc : Value} {W H : Nat} (hW : 0 < W)
    (hH : 0 < H) (hdoc : Json.parse text = .ok doc) (hw : doc.field "width" = .ok (.int W))
    (hh : doc.field "height" = .ok (.int H)) {frames : List (Nat × Text)}
    (hout : doc.field "stdout" = .ok (.array (frames.map Recording.frame)))
    (hsum : (frames.map Prod.fst).sum < 10 ^ Text.digitLimit) {format : Format}
    (hf : ∀ p, Token.isPrintable p = true → ∃ t, format.glyph (.str [p]) = .ok t)
    (height : Value) :
    (∀ (L : Value) (lim : Num), L ≠ .null → L.num? = some lim →
      snapshot (.str text) height L format false = Recording.exportAfter format W H
        ((frames.take (Recording.framesPlayed lim 0 (frames.map Prod.fst))).map Prod.snd)) ∧
    (∀ (D : Value) (lim : Num), doc.field "duration" = .ok D → D.num? = some lim →
      snapshot (.str text) height .null format false = Recording.exportAfter format W H
        ((frames.take (Recording.framesPlayed lim 0 (frames.map Prod.fst))).map Prod.snd) ∧
      (Recording.framesPlayed lim 0 (frames.map Prod.fst) = frames.length ↔
        frames = [] ∨ lim.reachedBy (frames.map Prod.fst).sum = false)) := by
  refine ⟨fun L lim hnull hL => ?_, fun D lim hD hL => ⟨?_, ?_⟩⟩
  · rw [snapshot_document hdoc hh, limit_given hnull, pure_bind]
    exact exportDocument_frames hW hH hw hh hout hsum hf hL
  · rw [snapshot_document hdoc hh]
    show doc.field "duration" >>= _ = _
    rw [hD, Except.ok_bind]
    exact exportDocument_frames hW hH hw hh hout hsum hf hL
  · have hall := @Recording.framesPlayed_eq_length_iff lim (frames.map Prod.fst)
    rwa [List.length_map, List.map_eq_nil_iff] at hall

/-- One frame ending at the duration, with no limit given: it is not played. -/
theorem export_plays_frames_below_limit_last_frame_dropped :
    let text := Text.ofString
      "\x7b\"width\": 5, \"height\": 1, \"duration\": 1, \"stdout\": [[1, \"a\"]]\x7d"
    let doc := Value.object [(Text.ofString "width", .int 5), (Text.ofString "height", .int 1),
      (Text.ofString "duration", .int 1),
      (Text.ofString "stdout", .array [Recording.frame (1, Text.ofString "a")])]
    Json.parse text = .ok doc ∧
      snapshot (.str text) .null .null Format.ansi false =
        Recording.exportAfter Format.ansi 5 1 [] := by
  intro text doc
  have hdoc : Json.parse text = .ok doc := Value.eq_ok_of_sameAs (by decide +kernel)
  have hsum : ([(1, Text.ofString "a")].map Prod.fst).sum < 10 ^ Text.digitLimit :=
    Nat.one_lt_pow (by decide) (by decide)
  refine ⟨hdoc, ?_⟩
  exact ((@export_plays_frames_below_limit text doc 5 1 (by decide) (by decide) hdoc rfl rfl
    [(1, Text.ofString "a")] rfl hsum Format.ansi (fun p _ => Format.ansi_glyph_ok p) .null).2
    (.int 1) (.int 1) rfl rfl).1

/-- When all frames but the last leave no sequence unfinished, export renders the screen one
write of the joined outputs of the frames played leaves. -/
theorem snapshot_renders_joined_output {text : Text} {doc : Value} {W H : Nat} (hW : 0 < W)
    (hH : 0 < H) (hdoc : Json.parse text = .ok doc) (hw : doc.field "width" = .ok (.int W))
    (hh : doc.field "height" = .ok (.int H)) {frames : List (Nat × Text)}
    (hout : doc.field "stdout" = .ok (.array (frames.map Recording.frame)))
    (hsum : (frames.map Prod.fst).sum < 10 ^ Text.digitLimit) {format : Format}
    (hf : ∀ p, Token.isPrintable p = true → ∃ t, format.glyph (.str [p]) = .ok t)
    (hset : ∀ o ∈ (frames.map Prod.snd).dropLast, Token.settled o = true)
    (height limit : Value) {L : Value} {lim : Num}
    (hlimit : (limit ≠ .null ∧ L = limit) ∨ (limit = .null ∧ doc.field "duration" = .ok L))
    (hL : L.num? = some lim) :
    snapshot (.str text) height limit format false = Recording.exportAfter format W H
      [((frames.take (Recording.framesPlayed lim 0 (frames.map Prod.fst))).map Prod.snd).flatten] := by
  -- the frames played are the first ones, so all but the last of them are settled too
  have hplayed : ∀ o ∈ ((frames.take (Recording.framesPlayed lim 0 (frames.map Prod.fst))).map
      Prod.snd).dropLast, Token.settled o = true := by
    intro o ho
    rw [List.map_take, List.dropLast_take_eq_take_dropLast] at ho
    exact hset o (List.mem_of_mem_take ho)
  rw [snapshot_document hdoc hh, ← Recording.exportAfter_joined hplayed,
    ← exportDocument_frames hW hH hw hh hout hsum hf hL]
  rcases hlimit with ⟨hnull, rfl⟩ | ⟨rfl, hD⟩
  · rw [limit_given hnull, pure_bind]
  · show doc.field "duration" >>= _ = _
    rw [hD, Except.ok_bind]

end TermSnap
