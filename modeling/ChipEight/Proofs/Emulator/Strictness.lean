import ChipEight.Proofs.Emulator.Faults
import ChipEight.Proofs.Emulator.History
import ChipEight.Proofs.Emulator.Loading

/-! # Strict and permissive emulators

Strictness is looked at in one place only: when the word at the counter stands for nothing. So a
strict emulator and its permissive twin do the same up to the first such word. There the strict one
objects, and the permissive one passes over the word, or runs out of memory.

* `Emulator.relaxed`: the permissive twin;
* `Emulator.reply_unknownInstruction_iff`: an emulator objects aloud exactly if it objects;
* `Emulator.perform_relaxed`: otherwise the twin responds alike;
* `Emulator.after_relaxed`: and so do whole runs, as long as nothing is objected to. -/

namespace ChipEight

/-- Strictness does not matter to a word that stands for an instruction. -/
theorem Machine.cycle_congr_of_ofWord? {m : Machine} {i : Instruction}
    (h : Instruction.ofWord? m.fetch = some i) (strict strict' : Bool) :
    m.cycle strict = m.cycle strict' := by
  simp only [cycle, Instruction.resolve, h]

/-- A result that has been passed on keeps its fault. -/
theorem eq_error_of_map_eq_error {α β : Type} {f : α → β} {r : Except Fault α}
    {fault : Fault} (h : r.map f = .error fault) : r = .error fault := by
  cases r with
  | error other => exact congrArg _ (Except.error.inj h)
  | ok a => cases h

/-- A command that is answered by a fault has met that fault. -/
theorem Response.eq_error_of_reply_ofExcept {α : Type} {e : Emulator}
    {entries : α → List LogEntry} {answer : α → Emulator × Reply} {r : Except Fault α}
    {fault : Fault} (h : (ofExcept e entries answer r).reply = .error fault) :
    r = .error fault := by
  cases r with
  | error other => exact congrArg _ (Except.error.inj h)
  | ok a => cases h

namespace Emulator

/-- The same emulator, but permissive. -/
def relaxed (e : Emulator) : Emulator := { e with settings := { e.settings with strict := false } }

@[simp] theorem machine_relaxed (e : Emulator) : e.relaxed.machine = e.machine := rfl

/-! ### When an emulator objects aloud -/

/-- The answer to a cycle is its error, if it has one. -/
theorem reply_cycle (e : Emulator) :
    (e.perform .cycle).reply =
      match e.cycle.error with
      | none => .ok .done
      | some fault => .error fault := rfl

/-- A cycle that does not object says nothing of an unknown instruction. -/
theorem error_cycle_ne_unknownInstruction {e : Emulator} (h : ¬e.Objects) (w : Word) :
    e.cycle.error ≠ some (.unknownInstruction w) := by
  intro herror
  by_cases hend : e.AtEnd
  · rw [(cycle_of_atEnd h hend).1] at herror
    cases herror
  by_cases hskips : e.SkipsOut
  · rw [(cycle_of_skipsOut hskips).1] at herror
    cases herror
  · rw [error_cycle_eq_none h hend hskips] at herror
    cases herror

/-- The faults of loading are those of reading and of a negative offset. -/
theorem load_ne_unknownInstruction (m : Memory) (data : Array UInt8) (offset : Int) (w : Word) :
    m.load data offset ≠ .error (.unknownInstruction w) := by
  cases offset <;> simp [Memory.load]

/-- A load never reports an unknown instruction. -/
theorem loadFrom_ne_unknownInstruction (m : Memory) (source : ByteSource) (offset : Int)
    (w : Word) : m.loadFrom source offset ≠ .error (.unknownInstruction w) := by
  rw [Memory.loadFrom, ByteSource.readAll]
  cases source.failure with
  | none => exact load_ne_unknownInstruction m source.bytes offset w
  | some failure => simp [Except.bind]

/-- The fault of moving a key is that there is no such key. -/
theorem set_ne_unknownInstruction (p : Keypad) (key : UInt8) (down : Bool) (w : Word) :
    p.set key down ≠ .error (.unknownInstruction w) := by
  cases down <;> by_cases hkey : key.toNat < 16 <;>
    simp [Keypad.set, Keypad.press, Keypad.release, Keypad.bit, hkey, Except.map]

/-- **An emulator objects aloud exactly if it objects.** No other command and no other state answers
that an instruction is unknown. -/
theorem reply_unknownInstruction_iff {e : Emulator} {c : Command} {w : Word} :
    (e.perform c).reply = .error (.unknownInstruction w) ↔
      c = .cycle ∧ e.Objects ∧ w = e.machine.fetch := by
  constructor
  · intro h
    -- Loads and keys have faults of their own, so only a cycle can have answered so.
    cases c with
    | load data offset =>
      have hload := eq_error_of_map_eq_error (Response.eq_error_of_reply_ofExcept h)
      exact absurd (eq_error_of_map_eq_error hload) (load_ne_unknownInstruction _ _ _ w)
    | loadProgram source =>
      have hload := eq_error_of_map_eq_error (Response.eq_error_of_reply_ofExcept h)
      exact absurd (eq_error_of_map_eq_error hload) (loadFrom_ne_unknownInstruction _ _ _ w)
    | press key =>
      have hset := eq_error_of_map_eq_error (Response.eq_error_of_reply_ofExcept h)
      exact absurd (eq_error_of_map_eq_error hset) (set_ne_unknownInstruction _ key true w)
    | release key =>
      have hset := eq_error_of_map_eq_error (Response.eq_error_of_reply_ofExcept h)
      exact absurd (eq_error_of_map_eq_error hset) (set_ne_unknownInstruction _ key false w)
    | cycle =>
      have herror : e.cycle.error = some (.unknownInstruction w) := by
        rw [reply_cycle] at h
        split at h
        · cases h
        · rename_i fault hfault
          rw [hfault, Except.error.inj h]
      have hobjects : e.Objects :=
        Classical.byContradiction fun h => error_cycle_ne_unknownInstruction h w herror
      refine ⟨rfl, hobjects, ?_⟩
      rw [cycle_of_objects hobjects] at herror
      exact (Fault.unknownInstruction.inj (Option.some.inj herror)).symm
    | tick => cases h
    | takeTone => cases h
  · rintro ⟨rfl, hobjects, rfl⟩
    rw [reply_cycle, cycle_of_objects hobjects]
    rfl

/-! ### The permissive twin -/

/-- **The permissive twin responds alike** unless the emulator objects. -/
theorem perform_relaxed {e : Emulator} {c : Command} (h : c = .cycle → ¬e.Objects) :
    e.relaxed.perform c = { e.perform c with emulator := (e.perform c).emulator.relaxed } := by
  cases c with
  | load data offset =>
    simp only [perform, load, Machine.load, machine_relaxed]
    cases e.machine.memory.load data offset <;> rfl
  | loadProgram source =>
    simp only [perform, loadProgram, Machine.loadFrom, machine_relaxed]
    -- The twin loads at the same address, because only its strictness is different.
    have haddress : e.relaxed.settings.programAddress = e.settings.programAddress := rfl
    rw [haddress]
    cases e.machine.memory.loadFrom source e.settings.programAddress.toNat <;> rfl
  | press key =>
    simp only [perform, setKey, Machine.setKey, machine_relaxed]
    cases e.machine.keypad.set key true <;> rfl
  | release key =>
    simp only [perform, setKey, Machine.setKey, machine_relaxed]
    cases e.machine.keypad.set key false <;> rfl
  | cycle =>
    have hcycle : e.machine.cycle false = e.machine.cycle e.settings.strict := by
      cases hstrict : e.settings.strict with
      | false => rfl
      | true =>
        have hw : Instruction.ofWord? e.machine.fetch ≠ none :=
          fun hw => h rfl (e.objects_iff.2 ⟨hstrict, hw⟩)
        obtain ⟨i, hi⟩ := Option.ne_none_iff_exists'.1 hw
        exact Machine.cycle_congr_of_ofWord? hi false true
    show Response.ofOutcome ((e.machine.cycle false).map _ _) = _
    rw [hcycle]
    rfl
  | tick => rfl
  | takeTone => rfl

/-- A command that is not objected to leaves the permissive twin of what it leaves. -/
theorem next_relaxed {e : Emulator} {c : Command} (h : c = .cycle → ¬e.Objects) :
    e.relaxed.next c = (e.next c).relaxed := by
  rw [next, perform_relaxed h]
  rfl

/-- **So do whole runs**, as long as nothing is objected to. -/
theorem after_relaxed {e : Emulator} {commands : List Command}
    (h : ∀ reply ∈ e.replies commands, ∀ w, reply ≠ .error (.unknownInstruction w)) :
    e.relaxed.after commands = (e.after commands).relaxed ∧
      e.relaxed.replies commands = e.replies commands := by
  induction commands generalizing e with
  | nil => exact ⟨rfl, rfl⟩
  | cons c rest ih =>
    obtain ⟨hreply, hrest⟩ := List.forall_mem_cons.1 h
    -- The first command is not objected to, so it leaves the twin of what it leaves.
    have hc : c = .cycle → ¬e.Objects := fun hcycle hobjects =>
      hreply _ (reply_unknownInstruction_iff.2 ⟨hcycle, hobjects, rfl⟩)
    obtain ⟨hafter, hreplies⟩ := ih hrest
    refine ⟨?_, ?_⟩
    · rw [after_cons, after_cons, next_relaxed hc, hafter]
    · rw [replies_cons, replies_cons, next_relaxed hc, hreplies, perform_relaxed hc]

/-- The permissive twin of an emulator that objects passes over the word, if memory goes on. -/
theorem perform_relaxed_of_objects {e : Emulator} (h : e.Objects) :
    e.relaxed.perform .cycle =
      if e.machine.counter < 0xFFE then
        ⟨{ e.relaxed with machine := { e.machine with counter := e.machine.counter + 2 } },
          [.ignored e.machine.fetch], .ok .done⟩
      else ⟨e.relaxed, [.ignored e.machine.fetch], .error (.outOfMemory e.machine.counter)⟩ := by
  obtain ⟨-, hw⟩ := e.objects_iff.1 h
  show Response.ofOutcome ((e.machine.cycle false).map _ _) = _
  by_cases hlt : e.machine.counter < 0xFFE
  · have hin : e.machine.counter + wordSize < Memory.size := by
      show e.machine.counter + 2 < 4096
      omega
    rw [if_pos hlt, Machine.cycle_of_ignores hw hin]
    rfl
  · have hout : Memory.size ≤ e.machine.counter + wordSize := by
      show 4096 ≤ e.machine.counter + 2
      omega
    have hentries :
        Instruction.resolveEntries false e.machine.fetch = [.ignored e.machine.fetch] := by
      simp [Instruction.resolveEntries, hw]
    rw [if_neg hlt, Machine.cycle_of_outOfMemory (fun h => absurd h Bool.false_ne_true) hout,
      hentries]
    rfl

/-- A permissive emulator never calls an instruction unknown. -/
theorem replies_ne_unknownInstruction {e : Emulator} (h : e.settings.strict = false)
    (commands : List Command) :
    ∀ reply ∈ e.replies commands, ∀ w, reply ≠ .error (.unknownInstruction w) := by
  induction commands generalizing e with
  | nil => exact fun reply hreply => absurd hreply List.not_mem_nil
  | cons c rest ih =>
    refine List.forall_mem_cons.2 ⟨fun w hw => ?_, ih (by rw [settings_next, h])⟩
    have hobjects := (reply_unknownInstruction_iff.1 hw).2.1
    exact Bool.false_ne_true (h.symm.trans hobjects.1)

/-- **Strict and permissive runs agree up to the first unknown instruction.** Two emulators that
differ in their strictness alone are given the same commands.

* As long as the strict one has called no instruction unknown, all answers are the same and so are
  the machines. The command at which it first does so is a cycle that leaves its machine as it was;
  the permissive one then only moves its counter over the word, or at the end of memory fails for
  want of memory and leaves its machine as it was too.
* The permissive one never calls an instruction unknown. -/
theorem strict_agrees_with_permissive (settings : Settings) (entropy : Random.Key)
    (earlier : List Command) :
    let strict := boot { settings with strict := true } entropy
    let permissive := boot { settings with strict := false } entropy
    let e := strict.after earlier
    let e' := permissive.after earlier
    ((∀ reply ∈ strict.replies earlier, ∀ w, reply ≠ .error (.unknownInstruction w)) →
      permissive.replies earlier = strict.replies earlier ∧ e'.machine = e.machine ∧
        ∀ c w, (e.perform c).reply = .error (.unknownInstruction w) →
          let p := e.machine.counter
          c = .cycle ∧ (e.next c).machine = e.machine ∧
            (p < 0xFFE → (e'.perform c).reply = .ok .done ∧
              (e'.next c).machine = { e'.machine with counter := p + 2 }) ∧
            (0xFFE ≤ p → (e'.perform c).reply = .error (.outOfMemory p) ∧
              (e'.next c).machine = e'.machine)) ∧
    ∀ reply ∈ permissive.replies earlier, ∀ w, reply ≠ .error (.unknownInstruction w) := by
  intro strict permissive e e'
  refine ⟨fun hknown => ?_, replies_ne_unknownInstruction rfl earlier⟩
  -- The two start as twins, and they still are at the word that is objected to.
  have htwin : strict.relaxed = permissive := rfl
  obtain ⟨hafter, hreplies⟩ := after_relaxed hknown
  rw [htwin] at hafter hreplies
  have he' : e' = e.relaxed := hafter
  refine ⟨hreplies, by rw [he', machine_relaxed], fun c w hw => ?_⟩
  obtain ⟨rfl, hobjects, -⟩ := reply_unknownInstruction_iff.1 hw
  have hnext : e.next .cycle = e := by
    show e.cycle.state = e
    rw [cycle_of_objects hobjects]
    rfl
  have hresponse := perform_relaxed_of_objects hobjects
  refine ⟨rfl, congrArg machine hnext, fun hlt => ?_, fun hle => ?_⟩
  · rw [if_pos hlt] at hresponse
    rw [next, he', hresponse]
    exact ⟨rfl, rfl⟩
  · rw [if_neg (Nat.not_lt.2 hle)] at hresponse
    rw [next, he', hresponse]
    exact ⟨rfl, rfl⟩

/-- After an instruction that both know, a word that stands for nothing is objected to by the strict
emulator and passed over by the permissive one. -/
theorem strict_agrees_with_permissive_up_to_unknown_word :
    let data : Array UInt8 := #[0x60, 0x05, 0x81, 0x28]
    let earlier := [.load data 0x200, .cycle, .tick]
    let strict := boot { strict := true } 0
    let e := strict.after earlier
    let e' := (boot {} 0).after earlier
    (∀ reply ∈ strict.replies earlier, ∀ w, reply ≠ .error (.unknownInstruction w)) ∧
      (e.perform .cycle).reply = .error (.unknownInstruction 0x8128) ∧
      e'.machine = e.machine ∧ (e.next .cycle).machine = e.machine ∧
      (e'.perform .cycle).reply = .ok .done ∧
      (e'.next .cycle).machine = { e'.machine with counter := 0x204 } := by
  intro data earlier strict e e'
  have hmemory : (strict.next (.load data 0x200)).machine.memory =
    Memory.withFont.overlay data 0x200 := rfl
  have hknows : (strict.next (.load data 0x200)).machine.started? =
      some (.setByte ⟨0, by decide⟩ 5) :=
    Machine.started?_of_overlay (k := 0) hmemory rfl rfl rfl (by decide) (by decide)
  have hloaded := next_cycle_of_started? hknows
  have hfetch : e.machine.fetch = Word.ofBytes 0x81 0x28 := by
    show ((strict.next (.load data 0x200)).next .cycle |>.next .tick).machine.fetch = _
    rw [hloaded]
    exact Machine.fetch_of_overlay (k := 2) hmemory rfl rfl rfl (by decide)
  have hobjects : e.Objects := by
    refine e.objects_iff.2 ⟨rfl, ?_⟩
    rw [hfetch]
    decide
  have hunknown : (e.perform .cycle).reply = .error (.unknownInstruction 0x8128) :=
    reply_unknownInstruction_iff.2 ⟨rfl, hobjects, hfetch.symm⟩
  -- Only the cycle could have objected, and it has found an instruction.
  have hreplies :
      ∀ reply ∈ strict.replies earlier, ∀ w, reply ≠ .error (.unknownInstruction w) := by
    simp only [earlier, replies_cons, replies_nil, List.forall_mem_cons]
    refine ⟨fun w hw => ?_, fun w hw => ?_, fun w hw => ?_, fun reply hreply => ?_⟩
    · cases (reply_unknownInstruction_iff.1 hw).1
    · have hnone := ((objects_iff _).1 (reply_unknownInstruction_iff.1 hw).2.1).2
      have hsome := (Machine.started?_eq_some_iff.1 hknows).2
      exact Option.some_ne_none _ (hsome.symm.trans hnone)
    · cases (reply_unknownInstruction_iff.1 hw).1
    · exact absurd hreply List.not_mem_nil
  have hcounter : e.machine.counter = 0x202 := by
    show ((strict.next (.load data 0x200)).next .cycle |>.next .tick).machine.counter = 0x202
    rw [hloaded]
    rfl
  obtain ⟨-, hmachine, hlast⟩ := (strict_agrees_with_permissive {} 0 earlier).1 hreplies
  obtain ⟨-, hstrict, hpermissive, -⟩ := hlast _ _ hunknown
  have hlt : e.machine.counter < 0xFFE := by
    rw [hcounter]
    decide
  obtain ⟨hreply, hnext⟩ := hpermissive hlt
  refine ⟨hreplies, hunknown, hmachine, hstrict, hreply, ?_⟩
  rw [hnext, hcounter]

end Emulator

end ChipEight
