import ChipEight.Proofs.Emulator.History
import ChipEight.Proofs.Emulator.Loading

/-! # Random bytes are drawn in order

The seed of an emulator fixes an endless stream of bytes, and one instruction draws the next byte of
it, also if its mask lets nothing of the byte through. Nothing else draws one: neither another
instruction, nor a cycle that fails or passes over its word, nor anything that is done from outside.
So the position in the stream is a count of the executions of that instruction.

* `Execution.isDraw`: whether an execution draws a byte;
* `Emulator.random_after`: where a run leaves the stream;
* `Emulator.nth_draw_takes_nth_byte`: which byte a draw finds, in one run and in two. -/

namespace ChipEight

/-- Whether the instruction draws a random byte. -/
def Execution.isDraw (x : Execution) : Bool :=
  match x.instruction with
  | .random .. => true
  | _ => false

/-- Only instructions draw random bytes. -/
theorem Machine.isInternal_random : IsInternal Machine.random :=
  ⟨⟨fun _ => rfl, fun _ _ => rfl, fun _ _ => rfl⟩, fun _ => rfl, fun _ => rfl⟩

namespace RandomSource

/-- The source after some more bytes have been drawn. -/
def skip (r : RandomSource) (n : Nat) : RandomSource := ⟨r.key, r.drawn + n⟩

/-- To skip some bytes and then some more is to skip all of them. -/
theorem skip_skip (r : RandomSource) (m n : Nat) : (r.skip m).skip n = r.skip (m + n) :=
  congrArg (RandomSource.mk r.key) (Nat.add_assoc r.drawn m n)

end RandomSource

namespace Emulator

/-- **A command draws as many bytes as it executes draws**: one or none. -/
theorem random_next (e : Emulator) (c : Command) :
    (e.next c).machine.random =
      e.machine.random.skip ((e.history [c]).countP Execution.isDraw) := by
  rw [Machine.isInternal_random.next, history_cons, history_nil, List.append_nil]
  cases e.started? c with
  | none => rfl
  | some i =>
    show (e.machine.advanced.executed i).random = _
    rw [Machine.random_executed]
    cases i <;> rfl

/-- **A run draws as many bytes as it executes draws.** -/
theorem random_after (e : Emulator) (commands : List Command) :
    (e.after commands).machine.random =
      e.machine.random.skip ((e.history commands).countP Execution.isDraw) := by
  induction commands generalizing e with
  | nil => rfl
  | cons c rest ih =>
    have hnext := e.random_next c
    rw [history_cons, history_nil, List.append_nil] at hnext
    rw [after_cons, ih (e.next c), hnext, RandomSource.skip_skip, history_cons, List.countP_append]

/-- A draw puts the next byte of the stream into its register, as far as the mask lets it
through. -/
theorem v_next_of_draw {e : Emulator} {x : Register} {mask : UInt8}
    (hi : e.machine.started? = some (.random x mask)) :
    (e.next .cycle).machine.v x = e.machine.random.next &&& mask := by
  rw [next_cycle_of_started? hi]
  exact Machine.v_setV_self _ _ _

/-- A run from the start, under settings with a seed, has drawn the first bytes of the stream that
the seed fixes: as many as it has executed draws. -/
theorem random_after_boot {settings : Settings} {seed : UInt64} (hseed : settings.seed = some seed)
    (entropy : Random.Key) (commands : List Command) :
    ((boot settings entropy).after commands).machine.random =
      ⟨Random.Key.ofSeed seed,
        ((boot settings entropy).history commands).countP Execution.isDraw⟩ := by
  have hstart : (boot settings entropy).machine.random = RandomSource.ofKey seed := by
    show RandomSource.ofKey (settings.key entropy) = _
    rw [Settings.key, hseed]
  rw [random_after, hstart, RandomSource.skip, RandomSource.ofKey, Nat.zero_add]

/-- **The draw number `k` takes the byte number `k`** of the stream that the seed fixes, both
counted from zero. For a run of any commands from the start, under any settings with this seed:

* as many bytes have been drawn as draws have been executed; and if the next cycle executes another
  one, it puts the next byte into its register, as far as the mask lets it through, and that byte is
  drawn then;
* if another such run, of other commands and under other settings, has executed as many draws, then
  the next draws of both find the same byte, whatever their registers and masks. -/
theorem nth_draw_takes_nth_byte (seed : UInt64) :
    (∀ settings entropy commands, settings.seed = some seed →
      let e := (boot settings entropy).after commands
      let k := ((boot settings entropy).history commands).countP Execution.isDraw
      e.machine.random = ⟨Random.Key.ofSeed seed, k⟩ ∧
        ∀ x mask, e.machine.started? = some (.random x mask) →
          (e.next .cycle).machine.v x = Random.stream (Random.Key.ofSeed seed) k &&& mask ∧
            (e.next .cycle).machine.random = ⟨Random.Key.ofSeed seed, k + 1⟩) ∧
    ∀ settings settings' entropy entropy' commands commands', settings.seed = some seed →
      settings'.seed = some seed →
      let start := boot settings entropy
      let start' := boot settings' entropy'
      (start.history commands).countP Execution.isDraw =
        (start'.history commands').countP Execution.isDraw →
      ∃ byte,
        (∀ x mask, (start.after commands).machine.started? = some (.random x mask) →
          ((start.after commands).next .cycle).machine.v x = byte &&& mask) ∧
        ∀ x mask, (start'.after commands').machine.started? = some (.random x mask) →
          ((start'.after commands').next .cycle).machine.v x = byte &&& mask := by
  refine ⟨fun settings entropy commands hseed => ?_,
    fun settings settings' entropy entropy' commands commands' hseed hseed' => ?_⟩
  · intro e k
    have hrandom : e.machine.random = ⟨Random.Key.ofSeed seed, k⟩ :=
      random_after_boot hseed entropy commands
    refine ⟨hrandom, fun x mask hi => ⟨?_, ?_⟩⟩
    · rw [v_next_of_draw hi, hrandom]
      rfl
    · rw [next_cycle_of_started? hi, Machine.random_executed]
      exact congrArg RandomSource.advance hrandom
  · -- Both runs have a source with the same key at the same place.
    intro start start' hcount
    have hrandom := random_after_boot hseed entropy commands
    have hrandom' := random_after_boot hseed' entropy' commands'
    refine ⟨(start.after commands).machine.random.next, fun x mask hi => v_next_of_draw hi,
      fun x mask hi => ?_⟩
    rw [v_next_of_draw hi, hrandom, hrandom', hcount]

/-- A program that draws a byte through an empty mask, and then another one, finds the second byte
of its stream; and so does a program elsewhere in the memory of a strict machine. -/
theorem nth_draw_takes_nth_byte_after_empty_mask :
    let settings : Settings := { seed := some 42 }
    let settings' : Settings := { strict := true, seed := some 42, programAddress := 0x300 }
    let commands : List Command := [.load #[0xc0, 0x00, 0xc1, 0xff] 0x200, .cycle]
    let commands' : List Command := [.load #[0xc7, 0x12, 0xc3, 0x0f] 0x300, .tick, .cycle]
    let e := (boot settings 0).after commands
    let e' := (boot settings' 1).after commands'
    settings.seed = some 42 ∧ settings'.seed = some 42 ∧
      ((boot settings 0).history commands).countP Execution.isDraw =
        ((boot settings' 1).history commands').countP Execution.isDraw ∧
      e.machine.started? = some (.random 1 0xff) ∧ e'.machine.started? = some (.random 3 0x0f) ∧
      (e.next .cycle).machine.v 1 = 99 ∧ (e'.next .cycle).machine.v 3 = 99 &&& 0x0f := by
  intro settings settings' commands commands' e e'
  -- Of what has been loaded only where the counter is over it matters.
  obtain ⟨loaded, hloaded, hover⟩ : ∃ loaded : Emulator,
      (boot settings 0).next (.load #[0xc0, 0x00, 0xc1, 0xff] 0x200) = loaded ∧
        loaded.machine.IsOver #[0xc0, 0x00, 0xc1, 0xff] 0x200 0 :=
    ⟨_, rfl, isOver_next_load rfl _⟩
  obtain ⟨loaded', hloaded', hover'⟩ : ∃ loaded : Emulator,
      (boot settings' 1).next (.load #[0xc7, 0x12, 0xc3, 0x0f] 0x300) = loaded ∧
        loaded.machine.IsOver #[0xc7, 0x12, 0xc3, 0x0f] 0x300 0 :=
    ⟨_, rfl, isOver_next_load rfl _⟩
  have hfirst : loaded.machine.started? = some (.random 0 0) :=
    hover.started? rfl rfl (by decide) (by decide)
  have hticked := isOver_next_tick hover'
  have hfirst' : (loaded'.next .tick).machine.started? = some (.random 7 0x12) :=
    hticked.started? rfl rfl (by decide) (by decide)
  have hdraw : e.machine.started? = some (.random 1 0xff) := by
    have he : e = loaded.next .cycle := hloaded ▸ rfl
    rw [he]
    exact (isOver_next_cycle hover hfirst rfl).started? rfl rfl (by decide) (by decide)
  have hdraw' : e'.machine.started? = some (.random 3 0x0f) := by
    have he : e' = (loaded'.next .tick).next .cycle := hloaded' ▸ rfl
    rw [he]
    exact (isOver_next_cycle hticked hfirst' rfl).started? rfl rfl (by decide) (by decide)
  have hcount : ((boot settings 0).history commands).countP Execution.isDraw = 1 := by
    rw [history_cons_of_ne_cycle _ (by simp), hloaded, history_cycle_of_started? hfirst]
    rfl
  have hcount' : ((boot settings' 1).history commands').countP Execution.isDraw = 1 := by
    rw [history_cons_of_ne_cycle _ (by simp), hloaded', history_cons_of_ne_cycle _ (by simp),
      history_cycle_of_started? hfirst']
    rfl
  obtain ⟨hone, htwo⟩ := nth_draw_takes_nth_byte 42
  have hv := ((hone settings 0 commands rfl).2 1 0xff hdraw).1
  obtain ⟨byte, hbyte, hbyte'⟩ := htwo settings settings' 0 1 commands commands' rfl rfl
    (hcount.trans hcount'.symm)
  have hsecond : Random.stream (Random.Key.ofSeed 42) 1 = 99 := by decide +kernel
  rw [hcount, hsecond] at hv
  -- The first mask lets the whole byte through, so that byte is known.
  have hbyte99 : byte = 99 := by
    have hwhole : (0xff : UInt8) = -1 := by decide
    have h : byte &&& 0xff = 99 := (hbyte 1 0xff hdraw).symm.trans hv
    rwa [hwhole, UInt8.and_neg_one] at h
  refine ⟨rfl, rfl, hcount.trans hcount'.symm, hdraw, hdraw', hv, ?_⟩
  rw [← hbyte99]
  exact hbyte' 3 0x0f hdraw'

end Emulator

end ChipEight
