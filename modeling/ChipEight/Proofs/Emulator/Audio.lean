import ChipEight.Emulator.Basic
import ChipEight.Proofs.Machine.Effects
import ChipEight.Proofs.Outcome.Chains

/-! # What a program does to the sound timer

A program reaches the sound timer and the tone request through a single instruction. So the cycles
of a frame leave them as if the program had done nothing but set the timer to one value after the
other (`Emulator.audio_cycles`).

* `Machine.audio`: the sound timer and the tone request;
* `Machine.soundSetting?` and `Emulator.soundSettings`: what a cycle sets the timer to, and what the
  cycles of a frame do;
* `Machine.Accounted`: no positive timer without a tone that is asked for or sounds. -/

namespace ChipEight

namespace Machine

/-- What the outside world can hear of: the sound timer and the tone request. -/
def audio (m : Machine) : UInt8 × Option Tone := (m.sound, m.pending)

/-- The value that the next cycle sets the sound timer to, if it does so. -/
def soundSetting? (m : Machine) : Option UInt8 :=
  match m.started? with
  | some (.setSound x) => some (m.v x)
  | _ => none

/-- The machine after its sound timer has been set to some values, one after the other. -/
def setSounds (m : Machine) (values : List UInt8) : Machine := values.foldl setSound m

@[simp] theorem setSounds_nil (m : Machine) : m.setSounds [] = m := rfl

/-- Storing two lists of sounds stores the second after the first. -/
theorem setSounds_append (m : Machine) (first second : List UInt8) :
    m.setSounds (first ++ second) = (m.setSounds first).setSounds second :=
  List.foldl_append

/-- To set the sound timer depends on nothing but what can be heard already. -/
theorem audio_setSounds_congr {m m' : Machine} (h : m.audio = m'.audio) (values : List UInt8) :
    (m.setSounds values).audio = (m'.setSounds values).audio := by
  induction values generalizing m m' with
  | nil => exact h
  | cons value rest ih =>
    refine ih ?_
    have hpending : m.pending = m'.pending := congrArg Prod.snd h
    show (value, if 0 < value then some ⟨value⟩ else m.pending) =
      (value, if 0 < value then some ⟨value⟩ else m'.pending)
    rw [hpending]

/-- An instruction can be heard if and only if it sets the sound timer. -/
theorem audio_executed (m : Machine) (i : Instruction) :
    (m.executed i).audio =
      match i with
      | .setSound x => (m.setSound (m.v x)).audio
      | _ => m.audio := by
  rw [audio, sound_executed, pending_executed]
  cases i <;> rfl

/-- A cycle leaves the timer as it was, or as the instruction that it started set it. -/
theorem audio_cycle (m : Machine) (strict : Bool) :
    (m.cycle strict).state.audio = (m.setSounds m.soundSetting?.toList).audio := by
  rcases state_cycle strict m with ⟨i, hi, hstate⟩ | ⟨hnone, hstate | ⟨-, hstate⟩⟩
  · rw [hstate, audio_executed, soundSetting?, hi]
    cases i <;> rfl
  · rw [hstate, soundSetting?, hnone]
    rfl
  · rw [hstate, soundSetting?, hnone]
    rfl

/-! ### A positive timer is accounted for -/

/-- A positive sound timer is accounted for: its tone has been asked for, or sounds already. -/
def Accounted (m : Machine) (playing : Bool) : Prop :=
  0 < m.sound → m.pending ≠ none ∨ playing = true

/-- Whether the timer is accounted for depends on the audio state only. -/
theorem accounted_of_audio_eq {m m' : Machine} {playing : Bool} (h : m.audio = m'.audio)
    (hm' : m'.Accounted playing) : m.Accounted playing := by
  have hsound : m.sound = m'.sound := congrArg Prod.fst h
  have hpending : m.pending = m'.pending := congrArg Prod.snd h
  intro hpos
  rw [hpending]
  exact hm' (hsound ▸ hpos)

/-- To set the timer asks for a tone as well, unless the timer is set to zero. -/
theorem Accounted.setSounds {m : Machine} {playing : Bool} (h : m.Accounted playing)
    (values : List UInt8) : (m.setSounds values).Accounted playing := by
  induction values generalizing m with
  | nil => exact h
  | cons value rest ih =>
    -- What was accounted for before is forgotten: a positive setting asks for a tone of its own.
    refine ih fun hpos => Or.inl ?_
    have hvalue : 0 < value := hpos
    show (if 0 < value then some (Tone.mk value) else m.pending) ≠ none
    rw [if_pos hvalue]
    exact Option.some_ne_none _

/-- The last setting decides. -/
theorem audio_setSounds_of_getLast? (m : Machine) {values : List UInt8} {value : UInt8}
    (h : values.getLast? = some value) (hpos : 0 < value) :
    (m.setSounds values).audio = (value, some ⟨value⟩) := by
  obtain ⟨first, rfl⟩ := List.getLast?_eq_some_iff.1 h
  rw [setSounds_append]
  show (value, if 0 < value then some (Tone.mk value) else _) = _
  rw [if_pos hpos]

/-- A timer that stands at zero is not heard of when it is set to zero. -/
theorem audio_setSounds_of_forall_eq_zero {m : Machine} (hsound : m.sound = 0)
    {values : List UInt8} (h : ∀ value ∈ values, value = 0) :
    (m.setSounds values).audio = m.audio := by
  induction values generalizing m with
  | nil => rfl
  | cons value rest ih =>
    have hvalue : value = 0 := h value List.mem_cons_self
    subst hvalue
    have hset : (m.setSound 0).audio = m.audio := by
      show ((0 : UInt8), m.pending) = (m.sound, m.pending)
      rw [hsound]
    rw [← hset]
    exact ih rfl fun value hmem => h value (List.mem_cons_of_mem 0 hmem)

/-- A tick takes one from the sound timer, as far as there is one to take. -/
theorem toNat_sound_tick (m : Machine) : m.tick.sound.toNat = m.sound.toNat - 1 := by
  rw [m.tick_eq_elapse]
  exact toNat_countDown m.sound 1

end Machine

namespace Emulator

/-- The values that up to `n` cycles set the sound timer to, in order. As in `Emulator.cycles` the
first fault ends them. -/
def soundSettings : Nat → Emulator → List UInt8
  | 0, _ => []
  | n + 1, e =>
    e.machine.soundSetting?.toList ++
      if e.cycle.error = none then soundSettings n e.cycle.state else []

/-- **The cycles can be heard only through their settings.** -/
theorem audio_cycles (n : Nat) (e : Emulator) :
    (e.cycles n).state.machine.audio = (e.machine.setSounds (e.soundSettings n)).audio := by
  induction n generalizing e with
  | zero => rfl
  | succ n ih =>
    have hcycle : e.cycle.state.machine.audio =
        (e.machine.setSounds e.machine.soundSetting?.toList).audio :=
      e.machine.audio_cycle e.settings.strict
    rw [cycles, Outcome.iterate_succ, soundSettings, Machine.setSounds_append]
    -- The settings of the later cycles work on a machine that sounds like the one after the first.
    cases herror : e.cycle.error with
    | some fault =>
      rw [Outcome.andThen_of_error_eq_some herror, if_neg (Option.some_ne_none fault)]
      exact hcycle
    | none =>
      rw [Outcome.andThen_of_error_eq_none herror, if_pos rfl]
      show (e.cycle.state.cycles n).state.machine.audio = _
      rw [ih]
      exact Machine.audio_setSounds_congr hcycle _

end Emulator

end ChipEight
