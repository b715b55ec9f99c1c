import ChipEight.Proofs.Device.Mirror
import ChipEight.Terminal.Keyboard

/-! # What a keyboard hears

A keyboard takes in the events of a batch one after the other. What it has seen in the end, and what
it has noted in the log, are read off the batch: every event adds its own key and its own entry, if
it has one, and an Escape between them changes nothing about the others. Only the wish to quit
outlives the batch.

* `Event.character?`, `Event.isEscape` and `Event.entry?`: what an event stands for;
* `Keyboard.hear_eq` and `Keyboard.hearAll_eq`: what one event, and what a batch, leaves behind;
* `Keyboard.poll_afterPolls` and `Keyboard.quitRequested_afterPolls_iff`: a keyboard that has been
  asked a number of times. -/

namespace ChipEight

/-- **A character stands for a key exactly if it is the character of this key.** -/
theorem Layout.key?_eq_some_iff {layout : Layout} {character : Char} {key : UInt8} :
    layout.key? character = some key ↔ layout.characters[key.toNat]? = some character := by
  rw [key?, Option.map_eq_some_iff]
  constructor
  · rintro ⟨n, hn, rfl⟩
    obtain ⟨hlt, hcharacter, -⟩ := List.findIdx?_eq_some_iff_getElem.1 hn
    have hsize : n < UInt8.size := Nat.lt_trans hlt (by rw [length_characters]; decide)
    rw [UInt8.toNat_ofNat_of_lt' hsize, List.getElem?_eq_getElem hlt, eq_of_beq hcharacter]
  · intro h
    obtain ⟨hlt, hcharacter⟩ := List.getElem?_eq_some_iff.1 h
    refine ⟨key.toNat, List.findIdx?_eq_some_iff_getElem.2 ⟨hlt, ?_, fun j hj heq => ?_⟩,
      UInt8.ofNat_toNat⟩
    · rw [hcharacter, beq_self_eq_true]
    · -- No earlier key has the same character.
      have hsame := (eq_of_beq heq).trans hcharacter.symm
      exact Nat.ne_of_lt hj ((List.getElem_inj layout.nodup_characters).1 hsame)

namespace Terminal

namespace Event

/-- The character that an event types. -/
def character? : Event → Option Char
  | .stroke _ (.character c) => some c
  | _ => none

/-- Whether an event asks to quit. -/
def isEscape : Event → Bool
  | .stroke _ .escape => true
  | _ => false

/-- What an event notes in the log. -/
def entry? (layout : Layout) : Event → Option LogEntry
  | .stroke _ (.character c) =>
    if (layout.key? c).isSome then none else some (.unmappedCharacter c)
  | .stroke _ .escape => none
  | .stroke _ key => some (.unknownKey key.outline.render)
  | .other => some .notAKey

/-- Only the stroke of a character has one, whatever its modifier. -/
theorem character?_eq_some_iff {event : Event} {c : Char} :
    event.character? = some c ↔ ∃ modifier, event = .stroke modifier (.character c) := by
  unfold character?
  split <;> simp_all

/-- An escape is the stroke of its key, whatever the modifier. -/
theorem isEscape_iff {event : Event} :
    event.isEscape = true ↔ ∃ modifier, event = .stroke modifier .escape := by
  unfold isEscape
  split <;> simp_all

/-- A batch asks to quit if it has an Escape. -/
theorem any_isEscape_iff {batch : List Event} :
    batch.any isEscape = true ↔ ∃ modifier, .stroke modifier .escape ∈ batch := by
  rw [List.any_eq_true]
  constructor
  · rintro ⟨event, hevent, hescape⟩
    obtain ⟨modifier, rfl⟩ := isEscape_iff.1 hescape
    exact ⟨modifier, hevent⟩
  · rintro ⟨modifier, hmem⟩
    exact ⟨_, hmem, rfl⟩

/-- The keys that the characters of a batch stand for are those whose characters are typed in it. -/
theorem mem_filterMap_key?_iff {layout : Layout} {batch : List Event} {key : UInt8} :
    key ∈ (batch.filterMap character?).filterMap layout.key? ↔
      ∃ character, layout.characters[key.toNat]? = some character ∧
        ∃ modifier, .stroke modifier (.character character) ∈ batch := by
  rw [List.mem_filterMap]
  constructor
  · rintro ⟨character, hmem, hkey⟩
    obtain ⟨event, hevent, hcharacter⟩ := List.mem_filterMap.1 hmem
    obtain ⟨modifier, rfl⟩ := character?_eq_some_iff.1 hcharacter
    exact ⟨character, Layout.key?_eq_some_iff.1 hkey, modifier, hevent⟩
  · rintro ⟨character, hcharacter, modifier, hevent⟩
    exact ⟨character, List.mem_filterMap.2 ⟨_, hevent, rfl⟩, Layout.key?_eq_some_iff.2 hcharacter⟩

/-- A stroke that is noted in the log is noted as a warning, and anything else for debugging. -/
theorem level_of_entry? {layout : Layout} {event : Event} {entry : LogEntry}
    (h : event.entry? layout = some entry) :
    entry.level = if event = .other then .debug else .warning := by
  cases event with
  | other =>
    obtain rfl : LogEntry.notAKey = entry := Option.some.inj h
    rfl
  | stroke modifier key =>
    rw [if_neg Event.noConfusion]
    cases key with
    | character c =>
      obtain ⟨-, hentry⟩ := Option.ite_none_left_eq_some.1 h
      obtain rfl := Option.some.inj hentry
      rfl
    | escape => exact absurd h.symm (Option.some_ne_none entry)
    | _ =>
      obtain rfl := Option.some.inj h
      rfl

end Event

namespace Keyboard

/-- A keyboard that has seen some more keys of the keypad, and perhaps an Escape. -/
def saw (k : Keyboard) (keys : List UInt8) (escape : Bool) : Keyboard :=
  { k with seen := k.seen ++ keys, quit := k.quit || escape }

/-- A keyboard that saw nothing is as it was. -/
@[simp] theorem saw_nil_false (k : Keyboard) : k.saw [] false = k := by
  rw [saw, List.append_nil, Bool.or_false]

/-- To see one thing after the other is to see both. -/
theorem saw_saw (k : Keyboard) (keys keys' : List UInt8) (escape escape' : Bool) :
    (k.saw keys escape).saw keys' escape' = k.saw (keys ++ keys') (escape || escape') := by
  simp only [saw, List.append_assoc, Bool.or_assoc]

/-- **What one event leaves behind**: its key, its wish to quit and its entry. -/
theorem hear_eq (k : Keyboard) (event : Event) :
    k.hear event =
      (k.saw (event.character?.bind k.layout.key?).toList event.isEscape,
        (event.entry? k.layout).toList) := by
  cases event with
  | other =>
    show (k, _) = (k.saw [] false, _)
    rw [saw_nil_false]
    rfl
  | stroke modifier key =>
    cases key with
    | character c =>
      show k.hearCharacter c = (k.saw (k.layout.key? c).toList false,
        (if (k.layout.key? c).isSome then none else some (LogEntry.unmappedCharacter c)).toList)
      rw [hearCharacter]
      cases k.layout.key? c with
      | some key => simp [saw]
      | none => simp
    | escape =>
      show ({ k with quit := true }, _) = (k.saw [] true, _)
      rw [saw, List.append_nil, Bool.or_true]
      rfl
    | _ =>
      show (k, _) = (k.saw [] false, _)
      rw [saw_nil_false]
      rfl

/-- Events are heard one after the other, and their lines follow each other. -/
theorem hearAll_cons (k : Keyboard) (event : Event) (rest : List Event) :
    k.hearAll (event :: rest) =
      (((k.hear event).1.hearAll rest).1, (k.hear event).2 ++ ((k.hear event).1.hearAll rest).2) :=
  rfl

/-- **What a batch leaves behind**: the keys of its events behind those that were there, and their
entries, each in the order of the events; and their wish to quit. -/
theorem hearAll_eq (k : Keyboard) (batch : List Event) :
    k.hearAll batch =
      (k.saw ((batch.filterMap Event.character?).filterMap k.layout.key?)
          (batch.any Event.isEscape),
        batch.filterMap (Event.entry? k.layout)) := by
  induction batch generalizing k with
  | nil => exact congrArg (·, []) k.saw_nil_false.symm
  | cons event rest ih =>
    have hkeys : ((event :: rest).filterMap Event.character?).filterMap k.layout.key? =
        (event.character?.bind k.layout.key?).toList ++
          (rest.filterMap Event.character?).filterMap k.layout.key? := by
      cases hc : event.character? with
      | none => simp [hc]
      | some c => cases hkey : k.layout.key? c <;> simp [hc, hkey]
    have hentries : (event :: rest).filterMap (Event.entry? k.layout) =
        (event.entry? k.layout).toList ++ rest.filterMap (Event.entry? k.layout) := by
      cases hentry : event.entry? k.layout <;> simp [hentry]
    rw [hearAll_cons, hear_eq, ih, saw_saw, hkeys, hentries, List.any_cons]
    rfl

/-- To listen is to take in the next batch, with nothing left of the keys that were seen before. -/
theorem listen_eq (k : Keyboard) :
    k.listen =
      ({ k with
          upcoming := k.upcoming.tail
          seen := ((k.upcoming.headD []).filterMap Event.character?).filterMap k.layout.key?
          quit := k.quit || (k.upcoming.headD []).any Event.isEscape },
        (k.upcoming.headD []).filterMap (Event.entry? k.layout)) := by
  rw [listen, hearAll_eq, saw, List.nil_append]

/-- A keyboard that has been asked `n` times has as many batches less to take in. -/
theorem exists_afterPolls_eq (k : Keyboard) (n : Nat) :
    ∃ seen quit, Input.afterPolls k n = { k with upcoming := k.upcoming.drop n, seen, quit } := by
  induction n with
  | zero => exact ⟨k.seen, k.quit, rfl⟩
  | succ n ih =>
    obtain ⟨seen, quit, hn⟩ := ih
    refine ⟨(Input.afterPolls k n).listen.1.seen, (Input.afterPolls k n).listen.1.quit, ?_⟩
    show (Input.afterPolls k n).listen.1 = _
    rw [hn, listen_eq, List.tail_drop]

/-- **What a keyboard sees and notes is read off one batch**: the one whose turn it is. -/
theorem poll_afterPolls (k : Keyboard) (n : Nat) :
    (Input.poll (Input.afterPolls k n)).keys =
        .ok (((k.upcoming.getD n []).filterMap Event.character?).filterMap k.layout.key?) ∧
      (Input.poll (Input.afterPolls k n)).entries =
        (k.upcoming.getD n []).filterMap (Event.entry? k.layout) := by
  obtain ⟨seen, quit, hn⟩ := exists_afterPolls_eq k n
  rw [hn]
  show Except.ok (listen _).1.seen = _ ∧ (listen _).2 = _
  rw [listen_eq, Input.headD_drop]
  exact ⟨rfl, rfl⟩

/-- The wish to quit is kept, and an Escape in the next batch adds it. -/
theorem quitRequested_afterPolls_succ (k : Keyboard) (n : Nat) :
    Input.quitRequested (Input.afterPolls k (n + 1)) =
      (Input.quitRequested (Input.afterPolls k n) ||
        (k.upcoming.getD n []).any Event.isEscape) := by
  obtain ⟨seen, quit, hn⟩ := exists_afterPolls_eq k n
  show (Input.afterPolls k n).listen.1.quit = ((Input.afterPolls k n).quit || _)
  rw [hn, listen_eq, Input.headD_drop]

/-- **A keyboard wants to quit once it has heard an Escape**, and from then on. -/
theorem quitRequested_afterPolls_iff {k : Keyboard} (hk : k.quit = false) {n : Nat} :
    Input.quitRequested (Input.afterPolls k n) = true ↔
      ∃ m < n, ∃ modifier, .stroke modifier .escape ∈ k.upcoming.getD m [] := by
  induction n with
  | zero =>
    show k.quit = true ↔ _
    rw [hk]
    exact ⟨fun h => absurd h Bool.false_ne_true, fun ⟨m, hm, _⟩ => absurd hm (Nat.not_lt_zero m)⟩
  | succ n ih =>
    rw [quitRequested_afterPolls_succ, Bool.or_eq_true, ih, Event.any_isEscape_iff]
    constructor
    · rintro (⟨m, hm, hescape⟩ | hescape)
      · exact ⟨m, Nat.lt_succ_of_lt hm, hescape⟩
      · exact ⟨n, Nat.lt_succ_self n, hescape⟩
    · rintro ⟨m, hm, hescape⟩
      rcases Nat.lt_succ_iff_lt_or_eq.1 hm with hlt | rfl
      · exact Or.inl ⟨m, hlt, hescape⟩
      · exact Or.inr hescape

end Keyboard

end Terminal

end ChipEight
