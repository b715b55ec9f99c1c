import ChipEight.Proofs.Emulator.Faults
import ChipEight.Proofs.Emulator.History
import ChipEight.Proofs.Emulator.Loading

/-! # Calls and returns

A call pushes the address of the word behind it, and nothing but a return takes an address off the
stack again: no program can reach the stack by writing to memory, and nobody reaches it from
outside. So an address that has been pushed stays where it is, under all that is pushed later, until
the return that goes back to it.

* `Machine.returnAddresses`: the stack from its oldest address on;
* `Emulator.stack_next`: all that a command can do to the stack;
* `Emulator.length_stack_after`: the depth of the stack as a count of calls and returns;
* `Emulator.StaysDeeper`: a run during which the stack never falls back to some depth. -/

namespace ChipEight

/-- The addresses that the machine will return to, the oldest first. -/
def Machine.returnAddresses (m : Machine) : List Nat := m.stack.reverse

namespace Execution

/-- Whether the instruction was a call. -/
def isCall (x : Execution) : Bool :=
  match x.instruction with
  | .call _ => true
  | _ => false

/-- Whether the instruction was a return, and there was an address to return to. -/
def isReturn (x : Execution) : Bool := x.instruction == .ret && !x.machine.stack.isEmpty

end Execution

namespace Emulator

/-! ### The stack after a command -/

/-- **A command changes the stack only by a call or a return.** -/
theorem stack_next (e : Emulator) (c : Command) :
    (e.next c).machine.stack =
      match e.started? c with
      | some .ret => e.machine.stack.tail
      | some (.call _) => (e.machine.counter + wordSize) :: e.machine.stack
      | _ => e.machine.stack := by
  rw [Machine.isInternal_stack.next]
  cases e.started? c with
  | none => rfl
  | some i =>
    show (e.machine.advanced.executed i).stack = _
    rw [Machine.stack_executed]
    cases i <;> rfl

/-- The stack grows by one address with a call, and loses one with a return that finds one. -/
theorem length_stack_next (e : Emulator) (c : Command) :
    (e.next c).machine.stack.length + (e.history [c]).countP Execution.isReturn =
      e.machine.stack.length + (e.history [c]).countP Execution.isCall := by
  rw [stack_next, history_cons, history_nil, List.append_nil]
  cases hi : e.started? c with
  | none => rfl
  | some i =>
    cases i with
    | ret =>
      -- A return that finds no address is not counted, and leaves the stack empty.
      cases hstack : e.machine.stack <;> simp [Execution.isReturn, Execution.isCall, hstack]
    | call target => simp [Execution.isReturn, Execution.isCall]
    | _ => simp [Execution.isReturn, Execution.isCall]

/-- The stack is deeper by the calls of a run, and less deep by the returns that found an
address. -/
theorem length_stack_after (e : Emulator) (commands : List Command) :
    (e.after commands).machine.stack.length + (e.history commands).countP Execution.isReturn =
      e.machine.stack.length + (e.history commands).countP Execution.isCall := by
  induction commands generalizing e with
  | nil => rfl
  | cons c rest ih =>
    have hstep := e.length_stack_next c
    have hrest := ih (e.next c)
    rw [history_cons, history_nil, List.append_nil] at hstep
    rw [after_cons, history_cons, List.countP_append, List.countP_append]
    omega

/-! ### The stack during a call -/

/-- The stack is deeper than `depth` from here on, up to the end of a run. -/
def StaysDeeper (depth : Nat) (e : Emulator) (commands : List Command) : Prop :=
  ∀ sofar, sofar <+: commands → depth < (e.after sofar).machine.stack.length

/-- With no command to come, staying deeper says how deep the stack is now. -/
@[simp] theorem staysDeeper_nil {depth : Nat} {e : Emulator} :
    e.StaysDeeper depth [] ↔ depth < e.machine.stack.length := by
  simp [StaysDeeper]

/-- A run stays deeper if it starts deeper and its remainder stays so. -/
@[simp] theorem staysDeeper_cons {depth : Nat} {e : Emulator} {c : Command} {rest : List Command} :
    e.StaysDeeper depth (c :: rest) ↔
      depth < e.machine.stack.length ∧ (e.next c).StaysDeeper depth rest := by
  constructor
  · intro h
    refine ⟨h [] List.nil_prefix, fun sofar hsofar => ?_⟩
    exact h (c :: sofar) (List.cons_prefix_cons.2 ⟨rfl, hsofar⟩)
  · rintro ⟨hhere, hrest⟩ sofar hsofar
    rcases List.prefix_cons_iff.1 hsofar with rfl | ⟨later, rfl, hlater⟩
    · exact hhere
    · exact hrest later hlater

variable {e : Emulator} {address : Nat} {outer : List Nat}

/-- A command that leaves more on the stack than there was under an address leaves the address
where it is. -/
theorem suffix_stack_next (h : (address :: outer) <:+ e.machine.stack) (c : Command)
    (hdeeper : outer.length < (e.next c).machine.stack.length) :
    (address :: outer) <:+ (e.next c).machine.stack := by
  have hstack := e.stack_next c
  split at hstack
  · -- A return could only take the address itself off, and then there would be no more than before.
    rw [hstack] at hdeeper ⊢
    cases hs : e.machine.stack with
    | nil => rw [hs] at h; exact absurd h (by simp)
    | cons latest rest =>
      rw [hs] at h hdeeper
      rcases List.suffix_cons_iff.1 h with heq | hsuffix
      · obtain ⟨-, rfl⟩ := List.cons.inj heq
        exact absurd hdeeper (Nat.lt_irrefl _)
      · exact hsuffix
  · rw [hstack]
    exact h.trans (List.suffix_cons _ _)
  · rw [hstack]
    exact h

/-- **An address stays on the stack** as long as the stack stays deeper than it was under the
address. -/
theorem suffix_stack_after (h : (address :: outer) <:+ e.machine.stack) (commands : List Command)
    (hdeeper : e.StaysDeeper outer.length commands) :
    (address :: outer) <:+ (e.after commands).machine.stack := by
  induction commands generalizing e with
  | nil => exact h
  | cons c rest ih =>
    -- What is known of the run holds of its remainder, from the emulator after the first command.
    have hrest := (staysDeeper_cons.1 hdeeper).2
    have hnext : outer.length < (e.next c).machine.stack.length := hrest [] List.nil_prefix
    exact ih (suffix_stack_next h c hnext) hrest

/-- **Only a return goes back to an address**, and it goes back to that address. -/
theorem return_of_length_stack_next_le (h : (address :: outer) <:+ e.machine.stack) {c : Command}
    (hle : (e.next c).machine.stack.length ≤ outer.length) :
    c = .cycle ∧ e.machine.started? = some .ret ∧ (e.next c).machine.stack = outer ∧
      (e.next c).machine.counter = address := by
  have hlength : outer.length < e.machine.stack.length := h.length_le
  have hstack := e.stack_next c
  split at hstack
  case h_1 hret =>
    obtain ⟨rfl, hi⟩ := started?_eq_some_iff.1 hret
    rw [hstack, List.length_tail] at hle
    -- The stack is no longer than the part of it that is known, so it is that part.
    have heq : address :: outer = e.machine.stack :=
      h.eq_of_length (by rw [List.length_cons]; omega)
    refine ⟨rfl, hi, ?_, ?_⟩
    · rw [hstack, ← heq, List.tail_cons]
    · rw [next_cycle_of_started? hi, Machine.executed_ret]
      show e.machine.stack.headD _ = address
      rw [← heq, List.headD_cons]
  -- A call makes the stack longer, and any other command leaves it as it was.
  case h_2 =>
    rw [hstack, List.length_cons] at hle
    omega
  case h_3 =>
    rw [hstack] at hle
    omega

/-! ### Calls and returns -/

/-- A call that is executed succeeds, and pushes the address of the next word. -/
theorem cycle_of_call {target : Address} (hi : e.machine.started? = some (.call target)) :
    e.cycle.error = none ∧
      (e.next .cycle).machine.stack = (e.machine.counter + 2) :: e.machine.stack ∧
      (e.next .cycle).machine.counter = target := by
  refine ⟨?_, ?_, ?_⟩
  · rw [error_cycle, Machine.cycle_of_started? hi]
    rfl
  · rw [next_cycle_of_started? hi]
    rfl
  · rw [next_cycle_of_started? hi]
    exact Machine.counter_executed _ _

/-- A return that finds no address goes on with the next word. -/
theorem cycle_of_ret_of_stack_eq_nil (hi : e.machine.started? = some .ret)
    (hstack : e.machine.stack = []) :
    e.cycle.error = none ∧
      e.cycle.state =
        { e with machine := { e.machine with counter := e.machine.counter + 2 } } := by
  refine ⟨?_, ?_⟩
  · rw [error_cycle, Machine.cycle_of_started? hi]
    rfl
  · show e.next .cycle = _
    rw [next_cycle_of_started? hi, Machine.executed_ret]
    simp [hstack, Machine.advanced]

/-- **Calls and returns match.** For an emulator `e` that some commands have led to:

* if its next cycle executes a call, then the call succeeds and pushes the address of the next word.
  Whatever follows, as long as the stack stays deeper than it was, all that was on it and that
  address stay at its bottom; and the first command after which it is no deeper than it was is a
  cycle that executes a return, goes on at that address and leaves what was on the stack before;
* its stack holds as many addresses as calls have been executed, less the returns that found one;
* if its next cycle executes a return that finds no address, it only goes on with the next word. -/
theorem calls_match_returns (settings : Settings) (entropy : Random.Key) (earlier : List Command) :
    let e := (boot settings entropy).after earlier
    let history := (boot settings entropy).history earlier
    let outer := e.machine.returnAddresses
    let back := e.machine.counter + 2
    (∀ target, e.machine.started? = some (.call target) →
      let called := e.next .cycle
      e.cycle.error = none ∧ called.machine.counter = target ∧
        called.machine.returnAddresses = outer ++ [back] ∧
        ∀ later, called.StaysDeeper outer.length later →
          let inside := called.after later
          (outer ++ [back]) <+: inside.machine.returnAddresses ∧
          ∀ c, (inside.next c).machine.returnAddresses.length ≤ outer.length →
            c = .cycle ∧ inside.machine.started? = some .ret ∧
              (inside.next c).machine.returnAddresses = outer ∧
              (inside.next c).machine.counter = back) ∧
    outer.length + history.countP Execution.isReturn = history.countP Execution.isCall ∧
    (e.machine.started? = some .ret → outer = [] →
      e.cycle.error = none ∧
        e.cycle.state =
          { e with machine := { e.machine with counter := e.machine.counter + 2 } }) := by
  intro e history outer back
  have hlength : outer.length = e.machine.stack.length := List.length_reverse
  refine ⟨fun target hi => ?_, ?_, fun hi houter => ?_⟩
  · intro called
    obtain ⟨herror, hstack, hcounter⟩ := cycle_of_call hi
    have haddresses : called.machine.returnAddresses = outer ++ [back] := by
      rw [Machine.returnAddresses, hstack, List.reverse_cons]
      rfl
    refine ⟨herror, hcounter, haddresses, fun later hdeeper => ?_⟩
    intro inside
    rw [hlength] at hdeeper
    -- Addresses are pushed in front, so what the call has found and left is an end of the stack.
    have hpushed : (back :: e.machine.stack) <:+ called.machine.stack :=
      hstack.symm ▸ List.suffix_refl _
    have hinside : (back :: e.machine.stack) <:+ inside.machine.stack :=
      suffix_stack_after hpushed later hdeeper
    refine ⟨?_, fun c hle => ?_⟩
    · have hbottom := List.reverse_prefix.2 hinside
      rwa [List.reverse_cons] at hbottom
    · rw [Machine.returnAddresses, List.length_reverse, hlength] at hle
      obtain ⟨hc, hret, hback, hcounter⟩ := return_of_length_stack_next_le hinside hle
      refine ⟨hc, hret, ?_, hcounter⟩
      rw [Machine.returnAddresses, hback]
      rfl
  · have hcount := (boot settings entropy).length_stack_after earlier
    have hstart : (boot settings entropy).machine.stack.length = 0 := rfl
    rw [hstart, Nat.zero_add] at hcount
    rw [hlength]
    exact hcount
  · exact cycle_of_ret_of_stack_eq_nil hi (List.reverse_eq_nil_iff.1 houter)

/-- A subroutine at `0x204` that calls another one returns to `0x202`, and until then that address
lies at the bottom of the stack. -/
theorem calls_match_returns_of_nested_calls :
    let data : Array UInt8 := #[0x22, 0x04, 0x00, 0x00, 0x22, 0x08, 0x00, 0xee, 0x00, 0xee]
    let e := (boot {} 0).after [.load data 0x200]
    let inside := (e.next .cycle).after [.cycle, .tick, .cycle]
    e.machine.started? = some (.call 0x204) ∧
      (e.next .cycle).StaysDeeper 0 [.cycle, .tick, .cycle] ∧
      (inside.next .cycle).machine.returnAddresses.length ≤ 0 ∧
      [0x202] <+: inside.machine.returnAddresses ∧ inside.machine.started? = some .ret ∧
      (inside.next .cycle).machine.counter = 0x202 := by
  intro data e inside
  -- No instruction of the run writes to memory, so this is the memory that each is found in.
  have hmemory : e.machine.memory = Memory.withFont.overlay data 0x200 := rfl
  have houter : e.machine.started? = some (.call 0x204) :=
    Machine.started?_of_overlay (k := 0) hmemory rfl rfl rfl (by decide) (by decide)
  have hcalled := next_cycle_of_started? houter
  have hinner : (e.next .cycle).machine.started? = some (.call 0x208) := by
    rw [hcalled]
    exact Machine.started?_of_overlay (k := 4) hmemory rfl rfl rfl (by decide) (by decide)
  have hdeepest := next_cycle_of_started? hinner
  have hreturns : ((e.next .cycle).next .cycle |>.next .tick).machine.started? = some .ret := by
    rw [hdeepest, hcalled]
    exact Machine.started?_of_overlay (k := 8) hmemory rfl rfl rfl (by decide) (by decide)
  have hinside : inside = _ := next_cycle_of_started? hreturns
  have hlast : inside.machine.started? = some .ret := by
    rw [hinside, hdeepest, hcalled]
    exact Machine.started?_of_overlay (k := 6) hmemory rfl rfl rfl (by decide) (by decide)
  have hdeeper : (e.next .cycle).StaysDeeper 0 [.cycle, .tick, .cycle] := by
    have hend : 0 < inside.machine.stack.length := by
      rw [hinside, hdeepest, hcalled]
      exact Nat.zero_lt_one
    simp only [staysDeeper_cons, staysDeeper_nil]
    refine ⟨?_, ?_, ?_, hend⟩
    · rw [hcalled]
      exact Nat.zero_lt_one
    · rw [hdeepest, hcalled]
      exact Nat.zero_lt_two
    · rw [hdeepest, hcalled]
      exact Nat.zero_lt_two
  have hle : (inside.next .cycle).machine.returnAddresses.length ≤ 0 := by
    rw [next_cycle_of_started? hlast, hinside, hdeepest, hcalled]
    exact Nat.le_refl 0
  obtain ⟨hbottom, hreturn⟩ :=
    ((calls_match_returns {} 0 [.load data 0x200]).1 _ houter).2.2.2 _ hdeeper
  exact ⟨houter, hdeeper, hle, hbottom, hlast, (hreturn _ hle).2.2.2⟩

end Emulator

end ChipEight
