import ChipEight.Console.Basic
import ChipEight.Device.Basic
import ChipEight.Proofs.Console.Frame

/-! # How a run of a console ends

An input that replays lists of keys asks to quit when it has replayed the last one, so every run
with it ends. How many frames it has can be told beforehand, unless one of them breaks off: every
frame uses up a list, and counts as one unless it breaks off.

* `Console.progress_frame`: what a frame does to the input and to the count of frames;
* `Console.run_of_due`: how a run ends with any input, if none of its frames breaks off;
* `Console.due`: how many frames a run has if none of them breaks off;
* `Console.repeatWhile_goesOn`: a run has as many frames as are due, or as it has patience for;
* `Console.runOut`: a run with the patience that it needs;
* `Console.run_ends_when_due`: when a run ends and what it leaves, and that it may be interrupted by
  a limit and taken up again. -/

namespace ChipEight.Console

variable {δ ι σ : Type}

/-! ### Progress -/

/-- How far a console has got: what is left of its input, and how many frames it has completed. -/
def progress (c : Console δ ι σ) : ι × Nat := (c.input, c.frames)

/-- An activity completes a frame unless it breaks off, and leaves the input as it was. -/
def CompletesFrame (before : ι × Nat) (o : Outcome Breakdown (Console δ ι σ)) : Prop :=
  o.state.progress = if o.error = none then (before.1, before.2 + 1) else before

/-- A chain completes a frame if its second activity does and its first one leaves that to it. -/
theorem CompletesFrame.andThen {before : ι × Nat} {o : Outcome Breakdown (Console δ ι σ)}
    {next : Console δ ι σ → Outcome Breakdown (Console δ ι σ)} (h : o.state.progress = before)
    (hnext : ∀ c, c.progress = before → CompletesFrame before (next c)) :
    CompletesFrame before (o.andThen next) := by
  cases ho : o.error with
  | none =>
    rw [Outcome.andThen_of_error_eq_none ho]
    exact hnext o.state h
  | some b =>
    have hne : ¬o.error = none := by simp [ho]
    rw [Outcome.andThen_of_error_eq_some ho, CompletesFrame, if_neg hne]
    exact h

/-- To read the keys is to ask the input once. -/
theorem progress_readKeys [Input ι] (c : Console δ ι σ) :
    c.readKeys.state.progress = ((Input.poll c.input).device, c.frames) := rfl

/-- Playing a tone changes neither the input nor the number of frames. -/
theorem progress_playTone [Sound σ] (c : Console δ ι σ) :
    c.playTone.state.progress = c.progress := by
  rw [playTone]
  cases c.emulator.machine.pending <;> rfl

/-- Nor does stopping one. -/
theorem progress_stopTone [Sound σ] (c : Console δ ι σ) :
    c.stopTone.state.progress = c.progress := by
  rw [stopTone]
  split <;> rfl

section Frames

variable [Display δ] [Input ι] [Sound σ]

/-- **A frame asks its input once**, and counts as completed unless it breaks off. -/
theorem progress_frame (c : Console δ ι σ) :
    c.frame.state.progress =
      ((Input.poll c.input).device, if c.frame.error = none then c.frames + 1 else c.frames) := by
  have hframe : CompletesFrame ((Input.poll c.input).device, c.frames) c.frame := by
    refine CompletesFrame.andThen c.progress_readKeys fun c h => ?_
    refine CompletesFrame.andThen h fun c h => ?_
    refine CompletesFrame.andThen (c.progress_playTone.trans h) fun c h => ?_
    refine CompletesFrame.andThen (c.progress_stopTone.trans h) fun c h => ?_
    refine CompletesFrame.andThen h fun c h => ?_
    refine CompletesFrame.andThen h fun c h => ?_
    exact congrArg (fun p : ι × Nat => (p.1, p.2 + 1)) h
  rw [CompletesFrame] at hframe
  rw [hframe]
  split <;> rfl

/-- A frame polls the input once and leaves it alone afterwards. -/
theorem input_frame (c : Console δ ι σ) : c.frame.state.input = (Input.poll c.input).device :=
  congrArg Prod.fst c.progress_frame

/-- A frame is counted when it ends without a failure. -/
theorem frames_frame (c : Console δ ι σ) :
    c.frame.state.frames = if c.frame.error = none then c.frames + 1 else c.frames :=
  congrArg Prod.snd c.progress_frame

/-- A console asks its input once in every frame, also if the frame breaks off. -/
theorem input_afterFrames (c : Console δ ι σ) (n : Nat) :
    (c.afterFrames n).input = Input.afterPolls c.input n := by
  induction n with
  | zero => rfl
  | succ n ih => rw [afterFrames, input_frame, ih, Input.afterPolls]

/-! ### Frames in a row -/

/-- Frames that succeed are counted, one after the other. -/
theorem frames_afterFrames {c : Console δ ι σ} {n : Nat}
    (h : ∀ k < n, (c.afterFrames k).frame.error = none) :
    (c.afterFrames n).frames = c.frames + n := by
  induction n with
  | zero => rfl
  | succ n ih =>
    have hlast : (c.afterFrames n).frame.error = none := h n (Nat.lt_succ_self n)
    rw [afterFrames, frames_frame, if_pos hlast, ih fun k hk => h k (Nat.lt_succ_of_lt hk),
      Nat.add_assoc]

/-- Frames that succeed, one after the other, succeed in a row. -/
theorem iterate_frame_of_forall {c : Console δ ι σ} {n : Nat}
    (h : ∀ k < n, (c.afterFrames k).frame.error = none) :
    (Outcome.iterate frame n c).error = none ∧
      (Outcome.iterate frame n c).state = c.afterFrames n ∧
      (c.afterFrames n).frames = c.frames + n := by
  obtain ⟨herror, hstate⟩ := Outcome.iterate_of_forall c.afterFrames (fun _ => rfl) h
  exact ⟨herror, hstate, frames_afterFrames h⟩

/-- The first frame that breaks off is the last one of a row, and is not counted. -/
theorem iterate_frame_of_first {c : Console δ ι σ} {n k : Nat} {b : Breakdown} (hk : k < n)
    (hbefore : ∀ j < k, (c.afterFrames j).frame.error = none)
    (hfails : (c.afterFrames k).frame.error = some b) :
    (Outcome.iterate frame n c).error = some b ∧
      (Outcome.iterate frame n c).state = c.afterFrames (k + 1) ∧
      (c.afterFrames (k + 1)).frames = c.frames + k := by
  have hrow := Outcome.iterate_of_first c.afterFrames (fun _ => rfl) hk hbefore hfails
  have hne : ¬(c.afterFrames k).frame.error = none := by simp [hfails]
  refine ⟨hrow.1, hrow.2, ?_⟩
  rw [afterFrames, frames_frame, if_neg hne, frames_afterFrames hbefore]

/-- **A run ends with the first frame after which no other is due**, if none breaks off. -/
theorem run_of_due {limit : Option Nat} {c : Console δ ι σ} {n patience : Nat}
    (hgoesOn : ∀ k < n, (c.afterFrames k).goesOn limit = true)
    (hends : (c.afterFrames n).goesOn limit = false)
    (h : ∀ k < n, (c.afterFrames k).frame.error = none) (hpatience : n ≤ patience) :
    (c.run limit patience).error = none ∧ (c.run limit patience).state = c.afterFrames n ∧
      (c.run limit patience).entries.getLast? = some (.stopped (c.frames + n)) := by
  obtain ⟨herror, hstate, hframes⟩ := iterate_frame_of_forall h
  obtain ⟨rest, rfl⟩ := Nat.exists_eq_add_of_le hpatience
  have hturns : Outcome.repeatWhile (goesOn limit) frame (n + rest) c =
      (Outcome.done (c.afterFrames n)).noting (Outcome.iterate frame n c).entries := by
    have hsplit := Outcome.repeatWhile_add c.afterFrames (fun _ => rfl) hgoesOn rest
    have hstart : c.afterFrames 0 = c := rfl
    rw [hstart, Outcome.andThen_of_error_eq_none herror, hstate,
      Outcome.repeatWhile_of_not_due _ hends] at hsplit
    exact hsplit
  rw [run, hturns]
  refine ⟨rfl, rfl, ?_⟩
  -- The last entry is the one that the end of the run adds.
  show (_ ++ endEntries limit (c.afterFrames n) none).getLast? = _
  rw [endEntries, hends, hframes, if_neg Bool.false_ne_true, List.getLast?_concat]

end Frames

/-! ### Runs with lists of keys -/

/-- How many frames a run has if none of them breaks off: one for each list of keys, up to the
limit. -/
def due (limit : Option Nat) (c : Console δ Replay σ) : Nat :=
  match limit with
  | none => c.input.upcoming.length
  | some n => min c.input.upcoming.length (n - c.frames)

/-- Another frame is due exactly if a run would have one. -/
theorem goesOn_eq_true_iff {limit : Option Nat} {c : Console δ Replay σ} :
    c.goesOn limit = true ↔ 0 < c.due limit := by
  have hquit : (!Input.quitRequested c.input) = true ↔ 0 < c.input.upcoming.length := by
    show (!c.input.upcoming.isEmpty) = true ↔ _
    cases c.input.upcoming <;> simp
  rw [goesOn, Bool.and_eq_true, hquit]
  cases limit with
  | none => simp [due]
  | some n =>
    simp only [due, Option.all_some, decide_eq_true_eq]
    omega

/-- A run needs no more frames than there are lists of keys. -/
theorem due_le_length (limit : Option Nat) (c : Console δ Replay σ) :
    c.due limit ≤ c.input.upcoming.length := by
  cases limit with
  | none => exact Nat.le_refl _
  | some n => exact Nat.min_le_left _ _

variable [Display δ] [Sound σ]

/-- A frame that succeeds leaves one frame less to be due. -/
theorem due_frame {c : Console δ Replay σ} (h : c.frame.error = none) (limit : Option Nat) :
    c.frame.state.due limit = c.due limit - 1 := by
  have hinput : c.frame.state.input.upcoming = c.input.upcoming.tail :=
    congrArg Replay.upcoming c.input_frame
  have hframes : c.frame.state.frames = c.frames + 1 := by rw [frames_frame, if_pos h]
  cases limit with
  | none => simp only [due, hinput, List.length_tail]
  | some n =>
    simp only [due, hinput, hframes, List.length_tail]
    omega

/-- **A run has as many frames as are due**, or as it has patience for. -/
theorem repeatWhile_goesOn (limit : Option Nat) (patience : Nat) (c : Console δ Replay σ) :
    Outcome.repeatWhile (goesOn limit) frame patience c =
      Outcome.iterate frame (min patience (c.due limit)) c := by
  induction patience generalizing c with
  | zero => rw [Nat.zero_min, Outcome.iterate_zero, Outcome.repeatWhile_zero]
  | succ patience ih =>
    rw [Outcome.repeatWhile_succ]
    cases hdue : c.due limit with
    | zero =>
      have hstop : ¬c.goesOn limit = true := by simp [goesOn_eq_true_iff, hdue]
      rw [if_neg hstop, Nat.min_zero, Outcome.iterate_zero]
    | succ left =>
      have hgo : c.goesOn limit = true := by simp [goesOn_eq_true_iff, hdue]
      rw [if_pos hgo, Nat.succ_min_succ, Outcome.iterate_succ]
      cases herror : c.frame.error with
      | none =>
        have hleft : c.frame.state.due limit = left := by rw [due_frame herror, hdue]; rfl
        rw [Outcome.andThen_of_error_eq_none herror, Outcome.andThen_of_error_eq_none herror, ih,
          hleft]
      | some b =>
        rw [Outcome.andThen_of_error_eq_some herror, Outcome.andThen_of_error_eq_some herror]

/-- As long as no frame breaks off, every frame leaves one less to be due. -/
theorem due_iterate {limit : Option Nat} {n : Nat} {c : Console δ Replay σ}
    (h : (Outcome.iterate frame n c).error = none) :
    (Outcome.iterate frame n c).state.due limit = c.due limit - n := by
  induction n generalizing c with
  | zero => rfl
  | succ n ih =>
    rw [Outcome.iterate_succ] at h ⊢
    obtain ⟨hfirst, hrest⟩ := Outcome.error_andThen_eq_none_iff.1 h
    rw [Outcome.andThen_of_error_eq_none hfirst]
    show (Outcome.iterate frame n c.frame.state).state.due limit = _
    rw [ih hrest, due_frame hfirst, Nat.sub_sub, Nat.add_comm]

/-- Every frame uses up a list of keys, also if it breaks off. -/
theorem upcoming_afterFrames (c : Console δ Replay σ) (n : Nat) :
    (c.afterFrames n).input.upcoming = c.input.upcoming.drop n := by
  induction n with
  | zero => rfl
  | succ n ih =>
    have hinput : (c.afterFrames (n + 1)).input.upcoming = (c.afterFrames n).input.upcoming.tail :=
      congrArg Replay.upcoming (c.afterFrames n).input_frame
    rw [hinput, ih, List.tail_drop]

/-! ### Runs that are not interrupted -/

/-- A run with all the patience that it needs. -/
def runOut (limit : Option Nat) (c : Console δ Replay σ) : Outcome Breakdown (Console δ Replay σ) :=
  c.run limit c.input.upcoming.length

/-- More patience than there are frames due makes no difference. -/
theorem run_eq_runOut {limit : Option Nat} {patience : Nat} {c : Console δ Replay σ}
    (h : c.due limit ≤ patience) : c.run limit patience = c.runOut limit := by
  rw [runOut, run, run, repeatWhile_goesOn, repeatWhile_goesOn, Nat.min_eq_right h,
    Nat.min_eq_right (c.due_le_length limit)]

/-- A run breaks off, and leaves its console, as the frames that are due do in a row. -/
theorem runOut_eq (limit : Option Nat) (c : Console δ Replay σ) :
    (c.runOut limit).error = (Outcome.iterate frame (c.due limit) c).error ∧
      (c.runOut limit).state = (Outcome.iterate frame (c.due limit) c).state := by
  have hrepeat := repeatWhile_goesOn limit c.input.upcoming.length c
  rw [Nat.min_eq_right (c.due_le_length limit)] at hrepeat
  -- The run only adds its last entry to what the frames have noted.
  rw [← hrepeat]
  exact ⟨rfl, rfl⟩

/-- When a run has ended without breaking off, no other frame is due. -/
theorem goesOn_runOut {limit : Option Nat} {c : Console δ Replay σ}
    (h : (c.runOut limit).error = none) : (c.runOut limit).state.goesOn limit = false := by
  obtain ⟨herror, hstate⟩ := c.runOut_eq limit
  have hdue : (c.runOut limit).state.due limit = 0 := by
    rw [hstate, due_iterate (herror.symm.trans h), Nat.sub_self]
  rw [Bool.eq_false_iff]
  intro hgo
  have hpos := goesOn_eq_true_iff.1 hgo
  omega

/-- **A run may be interrupted by a limit and taken up again** with a later one. -/
theorem runOut_runOut {a b : Nat} (hab : a ≤ b) {c : Console δ Replay σ}
    (h : (c.runOut (some a)).error = none) :
    ((c.runOut (some a)).state.runOut (some b)).error = (c.runOut (some b)).error ∧
      ((c.runOut (some a)).state.runOut (some b)).state = (c.runOut (some b)).state := by
  obtain ⟨herror, hstate⟩ := c.runOut_eq (some a)
  have hfirst : (Outcome.iterate frame (c.due (some a)) c).error = none := herror.symm.trans h
  obtain ⟨herror₂, hstate₂⟩ := (c.runOut (some a)).state.runOut_eq (some b)
  obtain ⟨herror₃, hstate₃⟩ := c.runOut_eq (some b)
  -- The frames that are due under the later limit are those of the first run and the others.
  have hle : c.due (some a) ≤ c.due (some b) := by
    simp only [due]
    omega
  have hsplit : Outcome.iterate frame (c.due (some b)) c =
      (Outcome.iterate frame (c.due (some a)) c).andThen
        (Outcome.iterate frame (c.due (some b) - c.due (some a))) := by
    rw [← Outcome.iterate_add, Nat.add_sub_cancel' hle]
  rw [Outcome.andThen_of_error_eq_none hfirst] at hsplit
  rw [herror₂, hstate₂, herror₃, hstate₃, hsplit, hstate, due_iterate hfirst]
  exact ⟨rfl, rfl⟩

/-- **A run stops exactly when it should.** With `lists` lists of keys left, `due` frames are due:
as many as there are lists, and no more than lead to the limit.

* The run ends: it has broken off or no other frame is due, and more patience than one frame for
  each list changes nothing.
* If none of the frames that are due breaks off, all of them are run and counted, and nothing else.
* If frame `k`, counted from zero, is the first to break off, the run breaks off with it; `k` frames
  have been counted, and `k + 1` lists used up.
* After a run up to a limit, a run up to a later limit ends as it would have ended at once. -/
theorem run_ends_when_due (c : Console δ Replay σ) :
    let lists := c.input.upcoming
    (∀ limit : Option Nat,
      let due := match limit with
        | none => lists.length
        | some l => min lists.length (l - c.frames)
      let o := c.runOut limit
      ((o.error ≠ none ∨ o.state.goesOn limit = false) ∧
        ∀ patience, lists.length ≤ patience → c.run limit patience = o) ∧
      ((∀ k < due, (c.afterFrames k).frame.error = none) →
        o.error = none ∧ o.state = c.afterFrames due ∧ o.state.frames = c.frames + due ∧
          o.state.input.upcoming = lists.drop due) ∧
      ∀ k b, k < due → (∀ j < k, (c.afterFrames j).frame.error = none) →
        (c.afterFrames k).frame.error = some b →
        o.error = some b ∧ o.state = (c.afterFrames k).frame.state ∧
          o.state.frames = c.frames + k ∧ o.state.input.upcoming = lists.drop (k + 1)) ∧
    ∀ a b, a ≤ b → (c.runOut (some a)).error = none →
      ((c.runOut (some a)).state.runOut (some b)).error = (c.runOut (some b)).error ∧
        ((c.runOut (some a)).state.runOut (some b)).state = (c.runOut (some b)).state := by
  intro lists
  refine ⟨fun limit => ?_, fun a b hab h => runOut_runOut hab h⟩
  intro due o
  have hdue : due = c.due limit := by cases limit <;> rfl
  -- A run is a repetition of as many frames as are due, unless one of them breaks off.
  obtain ⟨herror, hstate⟩ := c.runOut_eq limit
  rw [← hdue] at herror hstate
  refine ⟨⟨?_, fun patience hpatience => ?_⟩, fun h => ?_, fun k b hk hbefore hfails => ?_⟩
  · by_cases hnone : o.error = none
    · exact Or.inr (goesOn_runOut hnone)
    · exact Or.inl hnone
  · exact run_eq_runOut (Nat.le_trans (c.due_le_length limit) hpatience)
  · obtain ⟨hnone, hlast, hframes⟩ := iterate_frame_of_forall h
    have hend : o.state = c.afterFrames due := hstate.trans hlast
    refine ⟨herror.trans hnone, hend, ?_, ?_⟩
    · rw [hend, hframes]
    · rw [hend, upcoming_afterFrames]
  · obtain ⟨hsome, hlast, hframes⟩ := iterate_frame_of_first hk hbefore hfails
    have hend : o.state = c.afterFrames (k + 1) := hstate.trans hlast
    refine ⟨herror.trans hsome, hend, ?_, ?_⟩
    · rw [hend, hframes]
    · rw [hend, upcoming_afterFrames]

/-- A program that clears the screen and then jumps to the end of memory breaks off in the second of
three frames, whether a limit has interrupted it after the first one or not. -/
theorem run_ends_when_due_at_end_of_memory :
    let memory := (Memory.blank.write 2 0x1f).write 3 0xfe
    let c : Console FrameCounter Replay Mute :=
      { emulator := ⟨{}, { Machine.start 0 0 with memory }⟩
        display := {}
        input := ⟨[[], [3], []]⟩
        sound := {}
        cyclesPerFrame := 2 }
    let b := Breakdown.machine (.outOfMemory 0xFFE)
    (∀ j < 1, (c.afterFrames j).frame.error = none) ∧ (c.afterFrames 1).frame.error = some b ∧
      (c.runOut none).error = some b ∧ (c.runOut none).state.frames = 1 ∧
      (c.runOut none).state.input.upcoming = [[]] ∧ (c.runOut (some 1)).error = none ∧
      ((c.runOut (some 1)).state.runOut (some 2)).error = (c.runOut (some 2)).error := by
  intro memory c b
  have hbefore : ∀ j < 1, (c.afterFrames j).frame.error = none := by decide +kernel
  have hfails : (c.afterFrames 1).frame.error = some b := by decide +kernel
  have hfirst : (c.runOut (some 1)).error = none := by decide +kernel
  obtain ⟨hlimit, hresume⟩ := run_ends_when_due c
  obtain ⟨herror, -, hframes, hinput⟩ := (hlimit none).2.2 1 b (by decide) hbefore hfails
  exact ⟨hbefore, hfails, herror, hframes, hinput, hfirst, (hresume 1 2 (by decide) hfirst).1⟩

end ChipEight.Console
