import ChipEight.Log

/-! # Outcomes

An activity changes a state, leaves entries in the log, and may break off with an error. An
`Outcome` is all three: the state is there also after an error, just as the activity left it.
`Outcome.andThen` goes on with a second activity unless the first broke off. -/

namespace ChipEight

/-- What an activity leaves behind. -/
structure Outcome (ε σ : Type) where
  /-- The state in which the activity ended or broke off. -/
  state : σ
  /-- What it noted in the log. -/
  entries : List LogEntry
  /-- Why it broke off, if it did. -/
  error : Option ε

namespace Outcome

variable {ε ε' σ τ : Type}

/-- An activity that ended in a state and has nothing to report. -/
def done (s : σ) : Outcome ε σ := ⟨s, [], none⟩

/-- An activity that broke off in a state. -/
def fail (s : σ) (e : ε) : Outcome ε σ := ⟨s, [], some e⟩

/-- An activity that leaves the state `s` as it was unless it succeeds. -/
def ofExcept (s : σ) : Except ε σ → Outcome ε σ
  | .ok t => done t
  | .error e => fail s e

/-- The same outcome with entries put in front of its own. -/
def noting (o : Outcome ε σ) (entries : List LogEntry) : Outcome ε σ :=
  { o with entries := entries ++ o.entries }

/-- The outcome seen from a larger state and by a wider kind of error. -/
def map (onState : σ → τ) (onError : ε → ε') (o : Outcome ε σ) : Outcome ε' τ :=
  ⟨onState o.state, o.entries, o.error.map onError⟩

/-- Go on with a second activity where the first one ended, unless it broke off. -/
def andThen (o : Outcome ε σ) (next : σ → Outcome ε σ) : Outcome ε σ :=
  match o.error with
  | some _ => o
  | none => (next o.state).noting o.entries

/-- After an activity that has nothing to report the next one is all there is. -/
@[simp] theorem andThen_done (s : σ) (next : σ → Outcome ε σ) :
    (done s).andThen next = next s := rfl

/-- Three activities in a row may be grouped either way. -/
theorem andThen_assoc (o : Outcome ε σ) (f g : σ → Outcome ε σ) :
    (o.andThen f).andThen g = o.andThen fun s => (f s).andThen g := by
  cases o with | mk s entries error =>
  cases error with
  | some e => rfl
  | none =>
    simp only [andThen, noting]
    cases h : (f s).error <;> simp [h]

/-! ### Repetition -/

/-- The loop behind `repeatWhile`, which collects the entries as it goes. -/
def repeatFrom (goOn : σ → Bool) (step : σ → Outcome ε σ) :
    Nat → σ → Array LogEntry → Outcome ε σ
  | 0, s, noted => ⟨s, noted.toList, none⟩
  | n + 1, s, noted =>
    if goOn s then
      let o := step s
      match o.error with
      | some e => ⟨o.state, noted.toList ++ o.entries, some e⟩
      | none => repeatFrom goOn step n o.state (noted ++ o.entries)
    else ⟨s, noted.toList, none⟩

/-- Repeat an activity while the state calls for it, up to `n` times, as long as it does not break
off. -/
def repeatWhile (goOn : σ → Bool) (step : σ → Outcome ε σ) (n : Nat) (s : σ) : Outcome ε σ :=
  repeatFrom goOn step n s #[]

/-- Repeat an activity `n` times, as long as it does not break off. -/
def iterate (step : σ → Outcome ε σ) (n : Nat) (s : σ) : Outcome ε σ :=
  repeatWhile (fun _ => true) step n s

/-- What has been collected so far only stands in front of the rest. -/
theorem repeatFrom_eq (goOn : σ → Bool) (step : σ → Outcome ε σ) (n : Nat) (s : σ)
    (noted : Array LogEntry) :
    repeatFrom goOn step n s noted = (repeatWhile goOn step n s).noting noted.toList := by
  induction n generalizing s noted with
  | zero => simp [repeatFrom, repeatWhile, noting]
  | succ n ih =>
    simp only [repeatWhile, repeatFrom]
    by_cases h : goOn s
    · cases (step s).error with
      | some e => simp [h, noting]
      | none =>
        simp only [h, if_true]
        rw [ih, ih _ (#[] ++ (step s).entries)]
        simp [noting]
    · simp [h, noting]

/-- To repeat an activity no time is to do nothing. -/
@[simp] theorem repeatWhile_zero (goOn : σ → Bool) (step : σ → Outcome ε σ) (s : σ) :
    repeatWhile goOn step 0 s = done s := rfl

/-- A repetition is one turn and then the others, if the state calls for one. -/
theorem repeatWhile_succ (goOn : σ → Bool) (step : σ → Outcome ε σ) (n : Nat) (s : σ) :
    repeatWhile goOn step (n + 1) s =
      if goOn s then (step s).andThen (repeatWhile goOn step n) else done s := by
  rw [repeatWhile, repeatFrom]
  by_cases h : goOn s
  · cases he : (step s).error with
    | some e =>
      simp only [h, he, andThen, if_true]
      rw [← he]
      simp
    | none => simp [h, he, andThen, repeatFrom_eq]
  · simp [h, done]

/-- To do an activity no time is to do nothing. -/
@[simp] theorem iterate_zero (step : σ → Outcome ε σ) (s : σ) : iterate step 0 s = done s := rfl

/-- To repeat an activity is to do it once and then repeat it the other times. -/
theorem iterate_succ (step : σ → Outcome ε σ) (n : Nat) (s : σ) :
    iterate step (n + 1) s = (step s).andThen (iterate step n) := by
  simp [iterate, repeatWhile_succ]
  rfl

end Outcome

end ChipEight
