import ChipEight.Proofs.Console.Completion
import ChipEight.Proofs.Emulator.Account

/-! # The account of a console

A run of a console notes what its frames note, one after the other, and at its end one line more.
The line says how the run has ended, and where; so the log of a whole session can be read from the
frames that were run and the instructions that were started in them.

* `Console.map_line_endEntries`: how the end of a run reads;
* `Console.exists_ofTurns_run`: a run is some frames and what its end notes;
* `Console.log_accounts_for_run`: what can be read from the log of a cycle, of a run of an emulator
  and of a run of a console. -/

namespace ChipEight.Console

variable {δ ι σ : Type} [Input ι]

/-- The end of a run reads as an error with the place and the reason, or as a note that the run was
stopped. -/
theorem map_line_endEntries (limit : Option Nat) (c : Console δ ι σ) (error : Option Breakdown) :
    (c.endEntries limit error).map LogEntry.line =
      match error with
      | some b =>
        [(.error, "halted at " ++ Text.hex 3 c.emulator.machine.counter ++
          s!" after {c.frames} frames: " ++ b.message)]
      | none =>
        if c.goesOn limit then [] else [(.info, s!"stopped after {c.frames} frames")] := by
  cases error with
  | some b => rfl
  | none =>
    rw [endEntries]
    dsimp only
    cases c.goesOn limit <;> rfl

variable [Display δ] [Sound σ]

/-- **A run is some frames**, of which only the last may break off, **and what its end notes.** -/
theorem exists_ofTurns_run (c : Console δ ι σ) (limit : Option Nat) (patience : Nat) :
    ∃ n ≤ patience, ∃ o : Outcome Breakdown (Console δ ι σ),
      Outcome.OfTurns (goesOn limit) frame c.afterFrames n o ∧
        c.run limit patience =
          { o with entries := o.entries ++ endEntries limit o.state o.error } := by
  have hframes : ∃ n ≤ patience, Outcome.OfTurns (goesOn limit) frame c.afterFrames n
      (Outcome.repeatWhile (goesOn limit) frame patience c) :=
    Outcome.exists_ofTurns c.afterFrames (fun _ => rfl) patience
  obtain ⟨n, hn, hturns⟩ := hframes
  exact ⟨n, hn, _, hturns, rfl⟩

/-- **The log is a faithful account.**

For a cycle that finds the word `w` at `p`, whatever the emulator has done before:

* it notes, in this order, that `w` is ignored, if `w` stands for nothing and the emulator is
  permissive; the instruction with `p` and `w`, if `w` stands for one and `p` can be moved on; and
  the tone that this instruction asks for, if it sets the sound timer to a positive value. It notes
  nothing else, and all this does not depend on whether it then fails;
* if it names an instruction, the machine is left as that instruction leaves it; if it names none,
  at most the counter has moved.

The instructions that are named in the log of a run are those that the run executes, each of them
once and in order.

A run of a console notes what its frames note, which are all due and of which only the last may
break off. Behind that stands one line: with the counter, the frames counted and the reason if a
frame has broken off, and with the frames counted if no other frame is due. A run that has been
interrupted before has no such line, but with lists of keys no run needs to be. -/
theorem log_accounts_for_run (e : Emulator) (c : Console δ ι σ) (replaying : Console δ Replay σ) :
    let p := e.machine.counter
    let w := e.machine.fetch
    let named := List.filter LogEntry.isTrace
    (e.cycle.entries.map LogEntry.line =
        match Instruction.ofWord? w with
        | none =>
          if e.settings.strict then []
          else [(.debug, "ignoring unknown instruction " ++ Text.hex 4 w.toNat)]
        | some i =>
          if p < 0xFFE then
            (.trace, Text.hex 3 p ++ ": " ++ Text.hex 4 w.toNat ++ " " ++ i.outline.render) ::
            match i with
            | .setSound x =>
              let value := e.machine.v x
              if 0 < value then
                [(.debug, "tone requested for " ++ toString value.toNat ++ " ticks")]
              else []
            | _ => []
          else []) ∧
      ((∃ i, named e.cycle.entries = [.started p w i] ∧
          e.cycle.state = { e with machine := e.machine.advanced.executed i }) ∨
        (named e.cycle.entries = [] ∧
          ∃ counter, e.cycle.state = { e with machine := { e.machine with counter } })) ∧
      (∀ commands, named (e.entries commands) = (e.history commands).map Execution.entry) ∧
      (∀ limit patience,
        let o := c.run limit patience
        let counted := o.state.frames
        ∃ n ≤ patience, o.state = c.afterFrames n ∧
          (∀ k < n, (c.afterFrames k).goesOn limit = true) ∧
          (∀ k, k + 1 < n → (c.afterFrames k).frame.error = none) ∧
          (∀ b, o.error = some b ↔ ∃ k, k + 1 = n ∧ (c.afterFrames k).frame.error = some b) ∧
          o.entries.map LogEntry.line =
            ((List.range n).flatMap fun k => (c.afterFrames k).frame.entries.map LogEntry.line) ++
              match o.error with
              | some b =>
                [(.error, "halted at " ++ Text.hex 3 o.state.emulator.machine.counter ++
                  s!" after {counted} frames: " ++ b.message)]
              | none =>
                if o.state.goesOn limit then []
                else [(.info, s!"stopped after {counted} frames")]) ∧
      ∀ limit,
        (replaying.runOut limit).error ≠ none ∨
          (replaying.runOut limit).state.goesOn limit = false := by
  intro p w named
  refine ⟨e.lines_cycle, e.state_cycle_of_entries, e.filter_entries, fun limit patience => ?_,
    fun limit => ?_⟩
  · -- The run is the outcome of its frames, with one entry more.
    obtain ⟨n, hn, o, hturns, hrun⟩ := c.exists_ofTurns_run limit patience
    rw [hrun]
    refine ⟨n, hn, hturns.state, hturns.due, hturns.succeeds, hturns.error_iff, ?_⟩
    rw [List.map_append, map_line_endEntries, hturns.entries, List.map_flatMap]
  · by_cases hnone : (replaying.runOut limit).error = none
    · exact Or.inr (goesOn_runOut hnone)
    · exact Or.inl hnone

end ChipEight.Console
