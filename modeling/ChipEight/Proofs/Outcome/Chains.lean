import ChipEight.Outcome

/-! # Chains of activities

How a chain of activities succeeds or breaks off, how it looks from a larger or smaller state, and
how it compares with another chain that runs beside it.

* `Outcome.state_andThen` and `Outcome.state_repeatWhile`: what the activities of a chain preserve,
  the chain preserves, also if it breaks off;
* `Outcome.map_andThen`: a change of view passes through a chain;
* `Outcome.iterate_add`: a repetition may be interrupted and taken up again;
* `Outcome.iterate_of_forall` and `Outcome.iterate_of_first`: a repetition none of whose turns
  breaks off, and one that breaks off;
* `Outcome.OfTurns` and `Outcome.exists_ofTurns`: a repetition leaves what some turns leave, one
  after the other;
* `Outcome.Related`: two activities that break off alike and leave related states. -/

namespace ChipEight.Outcome

variable {ε ε' σ τ : Type}

/-- An activity that succeeded is followed by the next one. -/
theorem andThen_of_error_eq_none {o : Outcome ε σ} (h : o.error = none) (next : σ → Outcome ε σ) :
    o.andThen next = (next o.state).noting o.entries := by
  rw [andThen, h]

/-- An activity that broke off ends the chain. -/
theorem andThen_of_error_eq_some {o : Outcome ε σ} {e : ε} (h : o.error = some e)
    (next : σ → Outcome ε σ) : o.andThen next = o := by
  rw [andThen, h]

/-- The second activity of a chain ends where it would end on its own. -/
theorem state_andThen_of_error_eq_none {o : Outcome ε σ} (h : o.error = none)
    (next : σ → Outcome ε σ) : (o.andThen next).state = (next o.state).state := by
  rw [andThen_of_error_eq_none h]
  rfl

/-- **A chain succeeds only if all its activities do.** -/
theorem error_andThen_eq_none_iff {o : Outcome ε σ} {next : σ → Outcome ε σ} :
    (o.andThen next).error = none ↔ o.error = none ∧ (next o.state).error = none := by
  cases h : o.error with
  | none =>
    rw [andThen_of_error_eq_none h]
    exact ⟨fun hnext => ⟨rfl, hnext⟩, fun hboth => hboth.2⟩
  | some e =>
    rw [andThen_of_error_eq_some h, h]
    exact ⟨fun hnone => absurd hnone (Option.some_ne_none e), fun hboth => hboth.1⟩

/-- Mapping an outcome does not change whether it fails. -/
theorem error_map_eq_none_iff {onState : σ → τ} {onError : ε → ε'} {o : Outcome ε σ} :
    (o.map onState onError).error = none ↔ o.error = none :=
  Option.map_eq_none_iff

/-- What both activities of a chain preserve, the chain preserves, also if it breaks off. -/
theorem state_andThen {P : σ → Prop} {o : Outcome ε σ} {next : σ → Outcome ε σ} (h : P o.state)
    (hnext : ∀ s, P s → P (next s).state) : P (o.andThen next).state := by
  cases ho : o.error with
  | none =>
    rw [andThen_of_error_eq_none ho]
    exact hnext o.state h
  | some e =>
    rw [andThen_of_error_eq_some ho]
    exact h

/-- **A change of view passes through a chain** if it passes through both of its activities. -/
theorem map_andThen {onState : σ → τ} {onError : ε → ε'} {o : Outcome ε σ} {o' : Outcome ε' τ}
    {next : σ → Outcome ε σ} {next' : τ → Outcome ε' τ} (hfirst : o.map onState onError = o')
    (hnext : ∀ s, (next s).map onState onError = next' (onState s)) :
    (o.andThen next).map onState onError = o'.andThen next' := by
  subst hfirst
  -- A change of view does not change whether the first activity broke off.
  cases ho : o.error with
  | none =>
    have hmap : (o.map onState onError).error = none := error_map_eq_none_iff.2 ho
    rw [andThen_of_error_eq_none ho, andThen_of_error_eq_none hmap]
    show ((next o.state).map onState onError).noting o.entries = _
    rw [hnext]
    rfl
  | some e =>
    have hmap : (o.map onState onError).error = some (onError e) := by
      show o.error.map onError = _
      rw [ho, Option.map_some]
    rw [andThen_of_error_eq_some ho, andThen_of_error_eq_some hmap]

/-- No change of view, no change. -/
@[simp] theorem map_id (o : Outcome ε σ) : o.map id id = o := by
  rw [map, id, Option.map_id_apply]

/-- Two changes of view make one. -/
theorem map_map {ε'' υ : Type} (o : Outcome ε σ) (onState : σ → τ) (onError : ε → ε')
    (onState' : τ → υ) (onError' : ε' → ε'') :
    (o.map onState onError).map onState' onError' =
      o.map (onState' ∘ onState) (onError' ∘ onError) := by
  show Outcome.mk _ _ ((o.error.map onError).map onError') = _
  rw [Option.map_map]
  rfl

/-! ### Repetition -/

/-- To repeat an activity `m + n` times is to repeat it `m` times and then `n` times. -/
theorem iterate_add (step : σ → Outcome ε σ) (m n : Nat) (s : σ) :
    iterate step (m + n) s = (iterate step m s).andThen (iterate step n) := by
  induction m generalizing s with
  | zero => rw [Nat.zero_add, iterate_zero, andThen_done]
  | succ m ih =>
    have hrest : iterate step (m + n) = fun s => (iterate step m s).andThen (iterate step n) :=
      funext ih
    rw [Nat.succ_add, iterate_succ, iterate_succ, andThen_assoc, hrest]

/-- To repeat an activity once is to do it. -/
@[simp] theorem iterate_one (step : σ → Outcome ε σ) (s : σ) : iterate step 1 s = step s := by
  rw [iterate_succ]
  cases h : (step s).error with
  | none =>
    rw [andThen_of_error_eq_none h]
    simp [noting, done, ← h]
  | some e => rw [andThen_of_error_eq_some h]

/-- What a turn preserves, all turns together preserve, also if one of them breaks off. -/
theorem state_repeatWhile {P : σ → Prop} {goOn : σ → Bool} {step : σ → Outcome ε σ}
    (hstep : ∀ s, P s → P (step s).state) (n : Nat) {s : σ} (h : P s) :
    P (repeatWhile goOn step n s).state := by
  induction n generalizing s with
  | zero => exact h
  | succ n ih =>
    rw [repeatWhile_succ]
    split
    · exact state_andThen (hstep s h) fun t ht => ih ht
    · exact h

/-- Where no turn is due, a repetition does nothing. -/
theorem repeatWhile_of_not_due {goOn : σ → Bool} (step : σ → Outcome ε σ) {s : σ}
    (h : goOn s = false) (n : Nat) : repeatWhile goOn step n s = done s := by
  cases n with
  | zero => rfl
  | succ n => rw [repeatWhile_succ, h, if_neg Bool.false_ne_true]

section Turns

/-! The states between the turns, which go on behind a turn that breaks off. -/

variable {step : σ → Outcome ε σ} (states : Nat → σ)
  (hstates : ∀ k, states (k + 1) = (step (states k)).state)

include hstates

/-- Turns that succeed, one after the other, succeed in a row. -/
theorem iterate_of_forall {n : Nat} (h : ∀ k < n, (step (states k)).error = none) :
    (iterate step n (states 0)).error = none ∧ (iterate step n (states 0)).state = states n := by
  induction n with
  | zero => exact ⟨rfl, rfl⟩
  | succ n ih =>
    obtain ⟨herror, hstate⟩ := ih fun k hk => h k (Nat.lt_succ_of_lt hk)
    rw [iterate_add, andThen_of_error_eq_none herror, hstate, iterate_one]
    exact ⟨h n (Nat.lt_succ_self n), (hstates n).symm⟩

/-- Turns that succeed in a row leave the last of the states. -/
theorem state_iterate {n : Nat} (h : (iterate step n (states 0)).error = none) :
    (iterate step n (states 0)).state = states n := by
  induction n with
  | zero => rfl
  | succ n ih =>
    rw [iterate_add] at h ⊢
    have hfirst := (error_andThen_eq_none_iff.1 h).1
    rw [state_andThen_of_error_eq_none hfirst, ih hfirst, iterate_one]
    exact (hstates n).symm

/-- **The first turn that breaks off is the last one.** -/
theorem iterate_of_first {n k : Nat} {e : ε} (hk : k < n)
    (hbefore : ∀ j < k, (step (states j)).error = none)
    (hfails : (step (states k)).error = some e) :
    (iterate step n (states 0)).error = some e ∧
      (iterate step n (states 0)).state = states (k + 1) := by
  obtain ⟨herror, hstate⟩ := iterate_of_forall states hstates hbefore
  obtain ⟨rest, rfl⟩ := Nat.exists_eq_add_of_lt hk
  rw [Nat.add_assoc, iterate_add, andThen_of_error_eq_none herror, hstate, iterate_succ,
    andThen_of_error_eq_some hfails]
  exact ⟨hfails, (hstates k).symm⟩

/-- As long as another turn is due, it makes no difference whether one asks for it. -/
theorem repeatWhile_add {goOn : σ → Bool} {n : Nat} (hgoOn : ∀ k < n, goOn (states k) = true)
    (m : Nat) :
    repeatWhile goOn step (n + m) (states 0) =
      (iterate step n (states 0)).andThen (repeatWhile goOn step m) := by
  induction n generalizing states with
  | zero => rw [Nat.zero_add, iterate_zero, andThen_done]
  | succ n ih =>
    rw [Nat.succ_add, repeatWhile_succ, if_pos (hgoOn 0 (Nat.succ_pos n)), iterate_succ,
      andThen_assoc]
    cases herror : (step (states 0)).error with
    | some e => rw [andThen_of_error_eq_some herror, andThen_of_error_eq_some herror]
    | none =>
      have hrest := ih (fun k => states (k + 1)) (fun k => hstates (k + 1))
        fun k hk => hgoOn (k + 1) (Nat.succ_lt_succ hk)
      rw [Nat.zero_add, hstates 0] at hrest
      rw [andThen_of_error_eq_none herror, andThen_of_error_eq_none herror, hrest]

end Turns

/-! ### What the turns of a repetition leave -/

/-- An outcome is what a number of turns leave, one after the other. Each of them is due, and only
the last one may break off. -/
structure OfTurns (goOn : σ → Bool) (step : σ → Outcome ε σ) (states : Nat → σ) (turns : Nat)
    (o : Outcome ε σ) : Prop where
  state : o.state = states turns
  due : ∀ k < turns, goOn (states k) = true
  succeeds : ∀ k, k + 1 < turns → (step (states k)).error = none
  error_iff : ∀ e, o.error = some e ↔ ∃ k, k + 1 = turns ∧ (step (states k)).error = some e
  entries : o.entries = (List.range turns).flatMap fun k => (step (states k)).entries

section OfTurns

variable {goOn : σ → Bool} {step : σ → Outcome ε σ} {states : Nat → σ}

/-- Without a turn nothing is left but the state. -/
theorem ofTurns_zero : OfTurns goOn step states 0 (done (states 0)) where
  state := rfl
  due := nofun
  succeeds := nofun
  error_iff _ := ⟨nofun, fun ⟨k, hk, _⟩ => absurd hk (Nat.succ_ne_zero k)⟩
  entries := rfl

/-- A single turn may break off. -/
theorem ofTurns_one (hgo : goOn (states 0) = true) (hstate : states 1 = (step (states 0)).state) :
    OfTurns goOn step states 1 (step (states 0)) where
  state := hstate.symm
  due k hk := by rw [Nat.lt_one_iff.1 hk, hgo]
  succeeds k hk := absurd hk (Nat.not_lt.2 (Nat.le_add_left 1 k))
  error_iff e := by
    refine ⟨fun h => ⟨0, rfl, h⟩, ?_⟩
    rintro ⟨k, hk, h⟩
    obtain rfl : k = 0 := Nat.succ.inj hk
    exact h
  entries := (List.append_nil _).symm

/-- A turn that succeeds stands in front of the others. -/
theorem OfTurns.succ {o : Outcome ε σ} {turns : Nat} (hgo : goOn (states 0) = true)
    (he : (step (states 0)).error = none)
    (h : OfTurns goOn step (fun k => states (k + 1)) turns o) :
    OfTurns goOn step states (turns + 1) (o.noting (step (states 0)).entries) where
  state := h.state
  due k hk := by
    cases k with
    | zero => exact hgo
    | succ k => exact h.due k (Nat.lt_of_succ_lt_succ hk)
  succeeds k hk := by
    cases k with
    | zero => exact he
    | succ k => exact h.succeeds k (Nat.lt_of_succ_lt_succ hk)
  error_iff e := by
    -- The turn in front has succeeded, so whichever turn fails is one of the others.
    refine (h.error_iff e).trans ⟨fun ⟨k, hk, hfails⟩ => ⟨k + 1, congrArg (· + 1) hk, hfails⟩, ?_⟩
    rintro ⟨k, hk, hfails⟩
    cases k with
    | zero => exact absurd (hfails.symm.trans he) (Option.some_ne_none e)
    | succ k => exact ⟨k, Nat.succ.inj hk, hfails⟩
  entries := by
    show (step (states 0)).entries ++ o.entries = _
    rw [h.entries, List.range_succ_eq_map, List.flatMap_cons, List.flatMap_map]

/-- **A repetition leaves what some turns leave**, one after the other, and no more of them than it
is given. -/
theorem exists_ofTurns (states : Nat → σ) (hstates : ∀ k, states (k + 1) = (step (states k)).state)
    (n : Nat) :
    ∃ turns ≤ n, OfTurns goOn step states turns (repeatWhile goOn step n (states 0)) := by
  induction n generalizing states with
  | zero => exact ⟨0, Nat.le_refl 0, ofTurns_zero⟩
  | succ n ih =>
    rw [repeatWhile_succ]
    cases hgo : goOn (states 0) with
    | false => exact ⟨0, Nat.zero_le _, ofTurns_zero⟩
    | true =>
      rw [if_pos rfl]
      cases he : (step (states 0)).error with
      | some e =>
        rw [andThen_of_error_eq_some he]
        exact ⟨1, Nat.succ_le_succ (Nat.zero_le n), ofTurns_one hgo (hstates 0)⟩
      | none =>
        obtain ⟨turns, hturns, hrest⟩ := ih (fun k => states (k + 1)) fun k => hstates (k + 1)
        rw [andThen_of_error_eq_none he, ← hstates 0]
        exact ⟨turns + 1, Nat.succ_le_succ hturns, hrest.succ hgo he⟩

end OfTurns

/-! ### Activities side by side -/

/-- Two activities break off alike, or neither does, and the states that they leave are related.
What they note in the log may differ. -/
structure Related (R : σ → τ → Prop) (o : Outcome ε σ) (o' : Outcome ε τ) : Prop where
  error_eq : o.error = o'.error
  state : R o.state o'.state

namespace Related

variable {R : σ → τ → Prop}

/-- Two chains are related if their activities are, one by one. -/
theorem andThen {o : Outcome ε σ} {o' : Outcome ε τ} {next : σ → Outcome ε σ}
    {next' : τ → Outcome ε τ} (h : Related R o o')
    (hnext : ∀ s t, R s t → Related R (next s) (next' t)) :
    Related R (o.andThen next) (o'.andThen next') := by
  cases ho : o.error with
  | none =>
    have ho' : o'.error = none := h.error_eq.symm.trans ho
    rw [andThen_of_error_eq_none ho, andThen_of_error_eq_none ho']
    obtain ⟨herror, hstate⟩ := hnext o.state o'.state h.state
    exact ⟨herror, hstate⟩
  | some e =>
    have ho' : o'.error = some e := h.error_eq.symm.trans ho
    rw [andThen_of_error_eq_some ho, andThen_of_error_eq_some ho']
    exact h

/-- Two repetitions are related if their activities are, and if related states agree on whether
another turn is due. -/
theorem repeatWhile {goOn : σ → Bool} {goOn' : τ → Bool} {step : σ → Outcome ε σ}
    {step' : τ → Outcome ε τ} (hgoOn : ∀ s t, R s t → goOn s = goOn' t)
    (hstep : ∀ s t, R s t → Related R (step s) (step' t)) (n : Nat) {s : σ} {t : τ} (h : R s t) :
    Related R (Outcome.repeatWhile goOn step n s) (Outcome.repeatWhile goOn' step' n t) := by
  induction n generalizing s t with
  | zero => exact ⟨rfl, h⟩
  | succ n ih =>
    rw [repeatWhile_succ, repeatWhile_succ, hgoOn s t h]
    split
    · exact (hstep s t h).andThen fun s t h => ih h
    · exact ⟨rfl, h⟩

end Related

end ChipEight.Outcome
