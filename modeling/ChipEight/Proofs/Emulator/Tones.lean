import ChipEight.Proofs.Emulator.Audio
import ChipEight.Proofs.Emulator.History
import ChipEight.Proofs.Emulator.Loading

/-! # Tone requests

A program asks for a tone by setting the sound timer to a positive value. The request waits until it
is taken, and a later one takes its place; nothing else withdraws it, neither a tick nor a timer
that is set to zero. So whoever takes a request gets the latest one since a request was last taken.

* `Emulator.tones`: the tones that a run asks for;
* `Emulator.pending_next` and `Emulator.pending_after`: which request waits after one command, and
  after a run in which none is taken;
* `Machine.Outlasts`: a request that waits is for no fewer ticks than are left on the timer;
* `Emulator.takeTone_answers_latest_request`: what is answered to whoever takes a request. -/

namespace ChipEight

/-- The tone that an execution asks for: it sets the sound timer to a positive value. -/
def Execution.tone? (x : Execution) : Option Tone :=
  match x.instruction with
  | .setSound r => if 0 < x.machine.v r then some ⟨x.machine.v r⟩ else none
  | _ => none

/-- Storing a sound requests a tone if it stores a positive number of ticks. -/
@[simp] theorem Execution.tone?_setSound (m : Machine) (r : Register) :
    (Execution.mk m (.setSound r)).tone? = if 0 < m.v r then some ⟨m.v r⟩ else none := rfl

/-- An execution asks for a tone if and only if it sets the sound timer to a positive value. -/
theorem Execution.isSome_tone?_iff {x : Execution} :
    x.tone?.isSome = true ↔ ∃ r, x.instruction = .setSound r ∧ 0 < x.machine.v r := by
  obtain ⟨m, i⟩ := x
  cases i with
  | setSound r => simp [tone?]
  | _ => simp [tone?]

namespace Machine

/-- Neither loads nor keys reach the tone request. -/
theorem isSheltered_pending : IsSheltered pending := ⟨fun _ => rfl, fun _ _ => rfl, fun _ _ => rfl⟩

/-- Which request an instruction leaves: the one that it makes, or else the one that there was. -/
theorem pending_executed_advanced (m : Machine) (i : Instruction) :
    (m.advanced.executed i).pending = (Execution.mk m i).tone?.or m.pending := by
  rw [pending_executed]
  cases i with
  | setSound r =>
    show (if 0 < m.v r then some (Tone.mk (m.v r)) else m.pending) = _
    rw [Execution.tone?_setSound]
    split <;> rfl
  | _ => rfl

end Machine

namespace Emulator

/-- The tones that a run asks for, in order. -/
def tones (e : Emulator) (commands : List Command) : List Tone :=
  (e.history commands).filterMap Execution.tone?

/-- A run asks for the tones of its first command, and then for those of its remainder. -/
theorem tones_cons (e : Emulator) (c : Command) (rest : List Command) :
    e.tones (c :: rest) = e.tones [c] ++ (e.next c).tones rest := by
  simp [tones, history_cons]

/-- A run asks for a tone if and only if it sets the sound timer to a positive value. -/
theorem isSome_getLast?_tones_iff {e : Emulator} {commands : List Command} :
    (e.tones commands).getLast?.isSome = true ↔
      ∃ x ∈ e.history commands, ∃ r, x.instruction = .setSound r ∧ 0 < x.machine.v r := by
  constructor
  · intro hsome
    have hne : e.tones commands ≠ [] := List.getLast?_isSome.1 hsome
    obtain ⟨tone, htone⟩ := List.exists_mem_of_ne_nil _ hne
    obtain ⟨x, hx, hasks⟩ := List.mem_filterMap.1 htone
    exact ⟨x, hx, Execution.isSome_tone?_iff.1 (Option.isSome_of_eq_some hasks)⟩
  · rintro ⟨x, hx, hset⟩
    obtain ⟨tone, htone⟩ := Option.isSome_iff_exists.1 (Execution.isSome_tone?_iff.2 hset)
    have hmem : tone ∈ e.tones commands := List.mem_filterMap.2 ⟨x, hx, htone⟩
    exact List.getLast?_isSome.2 (List.ne_nil_of_mem hmem)

/-! ### The request that waits -/

/-- **Only taking a request withdraws it.** Any other command leaves the latest request: the one
that it makes itself, or else the one that was there. -/
theorem pending_next (e : Emulator) {c : Command} (hc : c ≠ .takeTone) :
    (e.next c).machine.pending = (e.tones [c]).getLast?.or e.machine.pending := by
  rw [Machine.isSheltered_pending.next]
  cases c with
  | takeTone => exact absurd rfl hc
  | cycle =>
    rw [tones, history_cons, history_nil, List.append_nil, started?]
    cases e.machine.started? with
    | none => rfl
    | some i =>
      show (e.machine.advanced.executed i).pending = _
      rw [Machine.pending_executed_advanced]
      cases htone : (Execution.mk e.machine i).tone? with
      | none => simp [htone]
      | some tone => simp [htone]
  | _ => rfl

/-- **The latest request of a run waits**, as long as none is taken. -/
theorem pending_after (e : Emulator) {commands : List Command}
    (hcommands : Command.takeTone ∉ commands) :
    (e.after commands).machine.pending = (e.tones commands).getLast?.or e.machine.pending := by
  induction commands generalizing e with
  | nil => rfl
  | cons c rest ih =>
    have hc : c ≠ .takeTone := (List.ne_of_not_mem_cons hcommands).symm
    rw [after_cons, ih (e.next c) (List.not_mem_of_not_mem_cons hcommands), pending_next e hc,
      e.tones_cons c rest, List.getLast?_append, Option.or_assoc]

/-- A request that waits goes on waiting while the sound timer is set to nothing but zero. -/
theorem pending_after_of_settings_eq_zero {e : Emulator} {commands : List Command}
    (hcommands : Command.takeTone ∉ commands)
    (hzero : ∀ x ∈ e.history commands, ∀ r, x.instruction = .setSound r → x.machine.v r = 0) :
    (e.after commands).machine.pending = e.machine.pending := by
  have hnone : e.tones commands = [] := by
    refine List.filterMap_eq_nil_iff.2 fun x hx => ?_
    rw [← Option.not_isSome_iff_eq_none, Execution.isSome_tone?_iff]
    rintro ⟨r, hr, hpos⟩
    rw [hzero x hx r hr] at hpos
    exact UInt8.lt_irrefl 0 hpos
  rw [pending_after e hcommands, hnone]
  rfl

end Emulator

/-! ### The request and the timer -/

namespace Machine

/-- A tone request that waits is for a positive number of ticks, and for no fewer than are left on
the sound timer. -/
def Outlasts (m : Machine) : Prop :=
  ∀ tone, m.pending = some tone → 0 < tone.ticks ∧ m.sound ≤ tone.ticks

variable {m m' : Machine}

/-- Whether the waiting tone outlasts the timer depends on the audio state only. -/
theorem Outlasts.of_audio_eq (h : m.Outlasts) (haudio : m'.audio = m.audio) : m'.Outlasts := by
  intro tone htone
  have hsound : m'.sound = m.sound := congrArg Prod.fst haudio
  have hpending : m'.pending = m.pending := congrArg Prod.snd haudio
  rw [hsound]
  exact h tone (hpending.symm.trans htone)

/-- To set the timer makes a request for just as many ticks, or leaves no tick on the timer. -/
theorem Outlasts.setSound (h : m.Outlasts) (value : UInt8) : (m.setSound value).Outlasts := by
  intro tone htone
  by_cases hpos : 0 < value
  · have hnew : some (Tone.mk value) = some tone := (if_pos hpos).symm.trans htone
    obtain rfl := Option.some.inj hnew
    exact ⟨hpos, UInt8.le_refl value⟩
  · have hold : m.pending = some tone := (if_neg hpos).symm.trans htone
    exact ⟨(h tone hold).1, UInt8.le_trans (UInt8.not_lt.1 hpos) UInt8.zero_le⟩

/-- A tick leaves no more on the timer than there was. -/
theorem Outlasts.tick (h : m.Outlasts) : m.tick.Outlasts := by
  intro tone htone
  obtain ⟨hpos, hle⟩ := h tone htone
  refine ⟨hpos, UInt8.le_iff_toNat_le.2 ?_⟩
  rw [toNat_sound_tick]
  exact Nat.le_trans (Nat.sub_le _ 1) (UInt8.le_iff_toNat_le.1 hle)

/-- A cycle sets the timer at most once. -/
theorem Outlasts.cycle (h : m.Outlasts) (strict : Bool) : (m.cycle strict).state.Outlasts := by
  refine Outlasts.of_audio_eq ?_ (m.audio_cycle strict)
  cases m.soundSetting? with
  | none => exact h
  | some value => exact h.setSound value

end Machine

namespace Emulator

/-- Every command leaves a request that outlasts the timer. -/
theorem outlasts_next {e : Emulator} (h : e.machine.Outlasts) (c : Command) :
    (e.next c).machine.Outlasts := by
  rcases e.next_cases c with ⟨-, memory, hc⟩ | ⟨keypad, hc⟩ | ⟨-, hc⟩ | ⟨-, hc⟩ | ⟨-, hc⟩
  · rw [hc]
    exact h
  · rw [hc]
    exact h
  · rw [hc]
    exact h.cycle e.settings.strict
  · rw [hc]
    exact h.tick
  · rw [hc]
    exact fun tone htone => absurd htone.symm (Option.some_ne_none tone)

/-- In every reachable emulator the request outlasts the timer. -/
theorem Reachable.outlasts {e : Emulator} (h : e.Reachable) : e.machine.Outlasts :=
  h.induction (P := fun e => e.machine.Outlasts)
    (fun _ _ tone htone => absurd htone.symm (Option.some_ne_none tone))
    fun _ c he => outlasts_next he c

/-! ### Taking a request -/

/-- **Whoever takes a tone request gets the latest one**, and gets it once. For a run of any
commands from the start:

* let `before` end where a request was taken last, or be empty, and let no request be taken since.
  Then to take one now answers with the last tone that was asked for since, and with none if the
  sound timer has not been set to a positive value since;
* a request that waits is for a positive number of ticks, and for no fewer than are left on the
  sound timer; and it goes on waiting until it is taken, whatever is done meanwhile, as long as the
  sound timer is set to nothing but zero. -/
theorem takeTone_answers_latest_request (settings : Settings) (entropy : Random.Key) :
    (∀ before since, (before = [] ∨ ∃ earlier, before = earlier ++ [.takeTone]) →
      Command.takeTone ∉ since →
      let e := (boot settings entropy).after before
      ((e.after since).perform .takeTone).reply = .ok (.tone (e.tones since).getLast?) ∧
        ((e.tones since).getLast?.isSome = true ↔
          ∃ x ∈ e.history since, ∃ r, x.instruction = .setSound r ∧ 0 < x.machine.v r)) ∧
    ∀ commands tone,
      let e := (boot settings entropy).after commands
      e.machine.pending = some tone →
        0 < tone.ticks ∧ e.machine.sound ≤ tone.ticks ∧
        ∀ later, Command.takeTone ∉ later →
          (∀ x ∈ e.history later, ∀ r, x.instruction = .setSound r → x.machine.v r = 0) →
          (e.after later).machine.pending = some tone := by
  refine ⟨fun before since hbefore hsince => ?_, fun commands tone => ?_⟩
  · intro e
    -- Nothing waits at the start, and nothing after a request has been taken.
    have hnone : e.machine.pending = none := by
      rcases hbefore with rfl | ⟨earlier, rfl⟩
      · rfl
      · show ((boot settings entropy).after (earlier ++ [.takeTone])).machine.pending = none
        rw [after_append]
        rfl
    refine ⟨?_, ?_⟩
    · show Except.ok (Reply.tone (e.after since).machine.pending) = _
      rw [pending_after e hsince, hnone, Option.or_none]
    · exact isSome_getLast?_tones_iff
  · intro e htone
    have hreachable : e.Reachable := ⟨settings, entropy, commands, rfl⟩
    obtain ⟨hpos, hle⟩ := hreachable.outlasts tone htone
    refine ⟨hpos, hle, fun later hlater hzero => ?_⟩
    rw [pending_after_of_settings_eq_zero hlater hzero, htone]

/-- A program that asks for a tone of five ticks, and then sets the sound timer to zero, does not
withdraw its request, and neither does a tick. -/
theorem takeTone_answers_latest_request_of_cancelled_tone :
    let data : Array UInt8 := #[0x60, 0x05, 0xf0, 0x18, 0xf1, 0x18]
    let before : List Command := [.load data 0x200, .takeTone]
    let since : List Command := [.cycle, .cycle]
    let later : List Command := [.tick, .cycle]
    let e := (boot {} 0).after before
    let asked := (boot {} 0).after (before ++ since)
    (before = [] ∨ ∃ earlier, before = earlier ++ [.takeTone]) ∧ Command.takeTone ∉ since ∧
      ((e.after since).perform .takeTone).reply = .ok (.tone (some ⟨5⟩)) ∧
      asked.machine.pending = some ⟨5⟩ ∧ Command.takeTone ∉ later ∧
      (∀ x ∈ asked.history later, ∀ r, x.instruction = .setSound r → x.machine.v r = 0) ∧
      (asked.after later).machine.pending = some ⟨5⟩ := by
  intro data before since later e asked
  -- Of what has been loaded only one register matters, and that the counter is over the data.
  obtain ⟨loaded, hloaded, hover, hv⟩ : ∃ loaded : Emulator,
      (boot {} 0).next (.load data 0x200) = loaded ∧ loaded.machine.IsOver data 0x200 0 ∧
        loaded.machine.v 1 = 0 := ⟨_, rfl, isOver_next_load rfl data, rfl⟩
  have he : e = loaded.next .takeTone := hloaded ▸ rfl
  have htaken := isOver_next_takeTone hover
  have hfive : (loaded.next .takeTone).machine.started? = some (.setByte 0 5) :=
    htaken.started? rfl rfl (by decide) (by decide)
  have hset := isOver_next_cycle htaken hfive rfl
  have hasks : ((loaded.next .takeTone).next .cycle).machine.started? = some (.setSound 0) :=
    hset.started? rfl rfl (by decide) (by decide)
  have hsplit : asked = e.after since := after_append _ _ _
  have hasked : asked = ((loaded.next .takeTone).next .cycle).next .cycle := by
    rw [hsplit, he]
    rfl
  have hclears : (asked.next .tick).machine.started? = some (.setSound 1) := by
    rw [hasked]
    exact (isOver_next_tick (isOver_next_cycle hset hasks rfl)).started? rfl rfl (by decide)
      (by decide)
  have hvalue : ((loaded.next .takeTone).next .cycle).machine.v 0 = 5 := by
    rw [next_cycle_of_started? hfive]
    exact (Machine.v_setV ..).trans (if_pos rfl)
  have htones : e.tones since = [⟨5⟩] := by
    rw [he, tones, history_cycle_of_started? hfive, history_cycle_of_started? hasks,
      List.filterMap_cons_none rfl, List.filterMap_cons, Execution.tone?_setSound, hvalue]
    rfl
  have hhistory : asked.history later = [⟨(asked.next .tick).machine, .setSound 1⟩] := by
    rw [history_cons_of_ne_cycle _ (by simp), history_cycle_of_started? hclears]
    rfl
  have hsettings : ∀ x ∈ asked.history later, ∀ r, x.instruction = .setSound r →
      x.machine.v r = 0 := by
    rw [hhistory, List.forall_mem_singleton]
    intro r hr
    obtain rfl := Instruction.setSound.inj hr
    rw [hasked, next_cycle_of_started? hasks, next_cycle_of_started? hfive]
    exact ((Machine.v_setV _ _ _ _).trans (if_neg (by decide))).trans hv
  obtain ⟨htaking, hwaiting⟩ := takeTone_answers_latest_request {} 0
  have hbefore : before = [] ∨ ∃ earlier, before = earlier ++ [.takeTone] := Or.inr ⟨[_], rfl⟩
  have hsince : Command.takeTone ∉ since := by simp [since]
  have hlater : Command.takeTone ∉ later := by simp [later]
  have hreply := (htaking before since hbefore hsince).1
  rw [htones] at hreply
  have hpending : asked.machine.pending = some ⟨5⟩ := by
    rw [hsplit]
    exact Reply.tone.inj (Except.ok.inj hreply)
  have hkept := (hwaiting (before ++ since) ⟨5⟩ hpending).2.2 later hlater hsettings
  exact ⟨hbefore, hsince, hreply, hpending, hlater, hsettings, hkept⟩

end Emulator

end ChipEight
