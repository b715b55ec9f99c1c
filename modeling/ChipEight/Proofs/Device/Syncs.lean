import ChipEight.Device.Basic
import ChipEight.Proofs.Device.Mirror
import ChipEight.Proofs.Outcome.Chains

/-! # Synchronisations one after the other

An input device is asked once in each synchronisation, whatever becomes of the reports. So a device
that replays lists of keys goes through its lists one by one, and the receiver of the reports, which
may refuse any of them, has no say in that.

* `receiverAfter`: a receiver after the reports of the lowest keys, and `reportKeys_cases`: none of
  the reports is refused, or the first that is refused is the last one;
* `recording`: a receiver with a record of the reports that have reached it;
* `Input.afterSyncs`: a device and a receiver after some synchronisations;
* `Replay.sync_reports_nth_list`: all of it together. -/

namespace ChipEight

variable {ι σ τ : Type}

/-! ### Reports to a receiver -/

section Reports

variable (onKey : UInt8 → Bool → τ → Outcome Fault τ) (seen : List UInt8)

/-- What a receiver makes of the report of key `k`. -/
def answer (k : Nat) (t : τ) : Outcome Fault τ :=
  onKey (UInt8.ofNat k) (seen.contains (UInt8.ofNat k)) t

/-- A receiver after the reports of the lowest `n` keys, one after the other. -/
def receiverAfter (t : τ) : Nat → τ
  | 0 => t
  | n + 1 => (answer onKey seen n (receiverAfter t n)).state

/-- To report two lists of keys is to report one after the other, unless a report is refused. -/
theorem reportKeys_append (first second : List UInt8) (t : τ) :
    reportKeys onKey seen (first ++ second) t =
      (reportKeys onKey seen first t).andThen (reportKeys onKey seen second) := by
  induction first generalizing t with
  | nil => rfl
  | cons key rest ih =>
    have hrest : reportKeys onKey seen (rest ++ second) =
        fun t => (reportKeys onKey seen rest t).andThen (reportKeys onKey seen second) := funext ih
    rw [List.cons_append, reportKeys, reportKeys, Outcome.andThen_assoc, hrest]

/-- The reports of the lowest keys end with the report of the highest of them. -/
theorem reportKeys_range_succ (n : Nat) (t : τ) :
    reportKeys onKey seen ((List.range (n + 1)).map UInt8.ofNat) t =
      (reportKeys onKey seen ((List.range n).map UInt8.ofNat) t).andThen
        fun t => (answer onKey seen n t).andThen .done := by
  rw [List.range_succ, List.map_append, reportKeys_append]
  rfl

/-- **The first report that is refused is the last one.** The lowest `n` keys are reported one after
the other, and either all of these reports are accepted or one of them ends the others. -/
theorem reportKeys_cases (n : Nat) (t : τ) :
    let o := reportKeys onKey seen ((List.range n).map UInt8.ofNat) t
    ∃ accepted ≤ n,
      (∀ k < accepted, (answer onKey seen k (receiverAfter onKey seen t k)).error = none) ∧
      (accepted = n ∧ o.error = none ∧ o.state = receiverAfter onKey seen t n ∨
        accepted < n ∧ ∃ fault,
          (answer onKey seen accepted (receiverAfter onKey seen t accepted)).error = some fault ∧
          o.error = some fault ∧ o.state = receiverAfter onKey seen t (accepted + 1)) := by
  induction n with
  | zero =>
    exact ⟨0, Nat.le_refl 0, fun k hk => absurd hk (Nat.not_lt_zero k), Or.inl ⟨rfl, rfl, rfl⟩⟩
  | succ n ih =>
    obtain ⟨accepted, hle, hbefore,
      ⟨rfl, herror, hstate⟩ | ⟨hlt, fault, hfails, herror, hstate⟩⟩ := ih
    · -- All keys but the last have been reported, and the answer to the last decides.
      rw [reportKeys_range_succ, Outcome.andThen_of_error_eq_none herror, hstate]
      cases hlast : (answer onKey seen accepted (receiverAfter onKey seen t accepted)).error with
      | none =>
        refine ⟨accepted + 1, Nat.le_refl _, fun k hk => ?_, Or.inl ⟨rfl, ?_⟩⟩
        · rcases Nat.lt_succ_iff_lt_or_eq.1 hk with hlt | rfl
          · exact hbefore k hlt
          · exact hlast
        · rw [Outcome.andThen_of_error_eq_none hlast]
          exact ⟨rfl, rfl⟩
      | some fault =>
        refine ⟨accepted, Nat.le_succ _, hbefore, Or.inr ⟨Nat.lt_succ_self _, fault, hlast, ?_⟩⟩
        rw [Outcome.andThen_of_error_eq_some hlast]
        exact ⟨hlast, rfl⟩
    · -- The reports have ended before the last key.
      rw [reportKeys_range_succ, Outcome.andThen_of_error_eq_some herror]
      exact ⟨accepted, Nat.le_succ_of_le hle, hbefore,
        Or.inr ⟨Nat.lt_succ_of_lt hlt, fault, hfails, herror, hstate⟩⟩

/-! ### The record of the reports -/

/-- A receiver with a record of the reports that have reached it, the latest last. A report that is
refused has reached it all the same. -/
def recording (key : UInt8) (down : Bool) (t : τ × List (UInt8 × Bool)) :
    Outcome Fault (τ × List (UInt8 × Bool)) :=
  (onKey key down t.1).map (·, t.2 ++ [(key, down)]) id

/-- The reports of the lowest `n` keys, in rising order. -/
def reports (n : Nat) : List (UInt8 × Bool) :=
  (List.range n).map fun k => (UInt8.ofNat k, seen.contains (UInt8.ofNat k))

/-- The reports of one more key end with its own. -/
theorem reports_succ (n : Nat) :
    reports seen (n + 1) = reports seen n ++ [(UInt8.ofNat n, seen.contains (UInt8.ofNat n))] := by
  rw [reports, List.range_succ, List.map_append]
  rfl

/-- A receiver says the same with a record and without. -/
theorem error_answer_recording (k : Nat) (t : τ × List (UInt8 × Bool)) :
    (answer (recording onKey) seen k t).error = (answer onKey seen k t.1).error :=
  Option.map_id_apply

/-- Each report adds itself to the record. -/
theorem receiverAfter_recording (t : τ) (n : Nat) :
    receiverAfter (recording onKey) seen (t, []) n =
      (receiverAfter onKey seen t n, reports seen n) := by
  induction n with
  | zero => rfl
  | succ n ih =>
    rw [receiverAfter, ih, reports_succ]
    rfl

/-- Reports take the same course with a record and without. -/
theorem forget_reportKeys (listed : List UInt8) (t : τ × List (UInt8 × Bool)) :
    (reportKeys (recording onKey) seen listed t).map Prod.fst id =
      reportKeys onKey seen listed t.1 := by
  induction listed generalizing t with
  | nil => rfl
  | cons key rest ih =>
    refine Outcome.map_andThen ?_ fun t => ih t
    rw [recording, Outcome.map_map]
    exact Outcome.map_id _

end Reports

/-! ### Synchronisations -/

/-- An input device and a receiver after `n` synchronisations, in each of which the receiver may
take the reports in another way. A report that is refused ends its own synchronisation only. -/
def Input.afterSyncs [Input ι] (onKey : Nat → UInt8 → Bool → σ → Outcome Fault σ) (device : ι)
    (s : σ) : Nat → ι × σ
  | 0 => (device, s)
  | n + 1 =>
    let before := afterSyncs onKey device s n
    let after := Input.sync (onKey n) before.1 before.2
    (after.1, after.2.state)

/-- A device is asked once in each synchronisation, whatever the receiver makes of it. -/
theorem Input.afterSyncs_fst [Input ι] (onKey : Nat → UInt8 → Bool → σ → Outcome Fault σ)
    (device : ι) (s : σ) (n : Nat) :
    (Input.afterSyncs onKey device s n).1 = Input.afterPolls device n := by
  induction n with
  | zero => rfl
  | succ n ih =>
    show (Input.poll (Input.afterSyncs onKey device s n).1).device = _
    rw [ih, Input.afterPolls]

namespace Replay

variable (lists : List (List UInt8))

/-- A device that has been asked `n` times has as many lists less to replay. -/
theorem afterPolls_eq (n : Nat) : Input.afterPolls (Replay.mk lists) n = ⟨lists.drop n⟩ := by
  induction n with
  | zero => rfl
  | succ n ih =>
    rw [Input.afterPolls, ih]
    exact congrArg Replay.mk List.tail_drop

/-- A device wants to quit when its lists have run out. -/
theorem quitRequested_drop_iff (n : Nat) :
    Input.quitRequested (Replay.mk (lists.drop n)) = true ↔ lists.length ≤ n := by
  show (lists.drop n).isEmpty = true ↔ _
  rw [List.isEmpty_iff, List.drop_eq_nil_iff]

/-- A synchronisation reports the keys of the next list, or no keys if there is none. -/
theorem sync_drop (onKey : UInt8 → Bool → τ → Outcome Fault τ) (n : Nat) (t : τ) :
    Input.sync onKey (Replay.mk (lists.drop n)) t =
      (⟨lists.drop (n + 1)⟩, reportKeys onKey (lists.getD n []) Keypad.keys t) := by
  show ((⟨(lists.drop n).tail⟩ : Replay),
    reportKeys onKey ((lists.drop n).headD []) Keypad.keys t) = _
  rw [List.tail_drop, Input.headD_drop]

/-- **Synchronisations report the lists of a device one by one.** Let a device that replays lists
have been synchronised `n` times, with whatever receivers and whatever they have refused, and
consider the next time:

* the device wants to quit before it if and only if there are no more than `n` lists;
* the list whose turn it is, or the empty one if there is none, is consumed whatever becomes of the
  reports, and the receiver is told the keys 0 to 15 in rising order, as down if they are on the
  list. If it refuses one, it is told the keys up to that one, and its fault is what the
  synchronisation ends with. A record of the reports, which this is read off, makes no difference to
  them;
* if the receiver is a keypad, then afterwards exactly the keys are down that are on the list and
  exist, whichever were down before. -/
theorem sync_reports_nth_list (earlier : Nat → UInt8 → Bool → σ → Outcome Fault σ) (s : σ) (n : Nat)
    (onKey : UInt8 → Bool → τ → Outcome Fault τ) (t : τ) (p : Keypad) :
    let device := (Input.afterSyncs earlier (Replay.mk lists) s n).1
    let seen := lists.getD n []
    let recorded := Input.sync (recording onKey) device (t, [])
    let o := recorded.2
    (Input.quitRequested device = true ↔ lists.length ≤ n) ∧
    (recorded.1 = ⟨lists.drop (n + 1)⟩ ∧
      Input.sync onKey device t = (recorded.1, o.map Prod.fst id) ∧
      ∃ accepted ≤ 16,
        (∀ k < accepted, (answer onKey seen k (receiverAfter onKey seen t k)).error = none) ∧
        (accepted = 16 ∧ o.error = none ∧
            o.state = (receiverAfter onKey seen t 16, reports seen 16) ∨
          accepted < 16 ∧ ∃ fault,
            (answer onKey seen accepted (receiverAfter onKey seen t accepted)).error = some fault ∧
            o.error = some fault ∧
            o.state = (receiverAfter onKey seen t (accepted + 1), reports seen (accepted + 1)))) ∧
    ∃ q, Input.sync Keypad.report device p = (recorded.1, .done q) ∧
      ∀ key, q.isPressed key = true ↔ key.toNat < 16 ∧ key ∈ seen := by
  intro device seen recorded o
  have hdevice : device = ⟨lists.drop n⟩ :=
    (Input.afterSyncs_fst earlier _ s n).trans (afterPolls_eq lists n)
  have hrecorded : recorded = (⟨lists.drop (n + 1)⟩,
      reportKeys (recording onKey) seen Keypad.keys (t, [])) := by
    show Input.sync (recording onKey) device (t, []) = _
    rw [hdevice, sync_drop]
  have ho : o = reportKeys (recording onKey) seen Keypad.keys (t, []) := congrArg Prod.snd hrecorded
  refine ⟨?_, ⟨congrArg Prod.fst hrecorded, ?_, ?_⟩, Keypad.holding seen, ?_, fun key => ?_⟩
  · rw [hdevice]
    exact quitRequested_drop_iff lists n
  · rw [hdevice, sync_drop, hrecorded, ho, forget_reportKeys]
  · -- The record is what the receiver with a record keeps beside the receiver itself.
    have hcases := reportKeys_cases (recording onKey) seen 16 (t, [])
    simp only [error_answer_recording, receiverAfter_recording] at hcases
    rw [ho]
    exact hcases
  · rw [hdevice, sync_drop, hrecorded, Keypad.reportKeys_eq]
  · rw [Keypad.isPressed_holding, Bool.and_eq_true, decide_eq_true_eq, List.contains_iff_mem]

end Replay

end ChipEight
