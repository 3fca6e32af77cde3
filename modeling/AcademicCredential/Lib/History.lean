import Mathlib.Data.List.Induction

/-!
# What a finite run did last

A run folds a step function over a list of events. `OccursAt` names a position of
the run by what happened there, and `Since` says that one kind of event happened
and that no event of another kind came after it. `observed_iff_since` turns a
statement about the final state into one about the run's history: it is enough to
know, for one step, what sets the observation and what clears it.
-/

namespace AcademicCredential.Lib

variable {State Event : Type*} (step : State → Event → State)

/-- The state a run reaches. -/
def stateAfter (start : State) (events : List Event) : State :=
  events.foldl step start

/-- The event at `index` exists and, in the state it met, is as `occurs` says. -/
def OccursAt (start : State) (events : List Event) (occurs : State → Event → Prop)
    (index : Nat) : Prop :=
  ∃ event, events[index]? = some event ∧
    occurs (stateAfter step start (events.take index)) event

/-- Something in `sets` occurred and nothing in `clears` occurred after it. -/
def Since (start : State) (events : List Event) (sets clears : State → Event → Prop) : Prop :=
  ∃ index, OccursAt step start events sets index ∧
    ∀ later, index < later → ¬ OccursAt step start events clears later

/-- An empty run stays at the start. -/
@[simp] theorem stateAfter_nil (start : State) : stateAfter step start [] = start := rfl

/-- The last event is applied last. -/
@[simp] theorem stateAfter_snoc (start : State) (events : List Event) (event : Event) :
    stateAfter step start (events ++ [event]) = step (stateAfter step start events) event := by
  simp [stateAfter]

/-- A run goes on where its first part ends. -/
theorem stateAfter_append (start : State) (earlier later : List Event) :
    stateAfter step start (earlier ++ later) =
      stateAfter step (stateAfter step start earlier) later := by
  simp [stateAfter]

/-- An invariant of one step holds after every run from a state that has it. -/
theorem stateAfter_invariant {invariant : State → Prop}
    (preserved : ∀ state event, invariant state → invariant (step state event))
    {start : State} (initially : invariant start) (events : List Event) :
    invariant (stateAfter step start events) := by
  induction events using List.reverseRecOn with
  | nil => exact initially
  | append_singleton events event inductionHypothesis =>
      rw [stateAfter_snoc]
      exact preserved _ _ inductionHypothesis

/-- Nothing occurs in an empty run. -/
theorem not_occursAt_nil (start : State) (occurs : State → Event → Prop) (index : Nat) :
    ¬ OccursAt step start [] occurs index := by
  rintro ⟨event, found, -⟩
  simp at found

/-- The occurrences of a longer run are those of the shorter one and the last step. -/
theorem occursAt_snoc (start : State) (events : List Event) (event : Event)
    (occurs : State → Event → Prop) (index : Nat) :
    OccursAt step start (events ++ [event]) occurs index ↔
      OccursAt step start events occurs index ∨
        index = events.length ∧ occurs (stateAfter step start events) event := by
  rcases Nat.lt_trichotomy index events.length with earlier | rfl | later
  · have sameEvent : (events ++ [event])[index]? = events[index]? :=
      List.getElem?_append_left earlier
    have samePrefix : (events ++ [event]).take index = events.take index :=
      List.take_append_of_le_length (Nat.le_of_lt earlier)
    simp [OccursAt, sameEvent, samePrefix, Nat.ne_of_lt earlier]
  · simp [OccursAt]
  · have beyond : events[index]? = none := List.getElem?_eq_none (Nat.le_of_lt later)
    have beyondLast : (events ++ [event])[index]? = none :=
      List.getElem?_eq_none (by simp; omega)
    simp [OccursAt, beyond, beyondLast, Nat.ne_of_gt later]

/-- Nothing of a kind occurs in a run when it does not before the last step nor there. -/
theorem never_occursAt_snoc (start : State) (events : List Event) (event : Event)
    (occurs : State → Event → Prop) :
    (∀ index, ¬ OccursAt step start (events ++ [event]) occurs index) ↔
      (∀ index, ¬ OccursAt step start events occurs index) ∧
        ¬ occurs (stateAfter step start events) event := by
  simp only [occursAt_snoc, not_or, forall_and, not_and, forall_eq]

/-- What occurs has a position in the run. -/
theorem OccursAt.lt_length {start : State} {events : List Event}
    {occurs : State → Event → Prop} {index : Nat}
    (occurred : OccursAt step start events occurs index) : index < events.length := by
  obtain ⟨event, found, -⟩ := occurred
  exact (List.getElem?_eq_some_iff.mp found).1

/-- An invariant that every step keeps but the `bad` ones holds after a run without
bad steps. -/
theorem stateAfter_invariant_of_never {invariant : State → Prop} {bad : State → Event → Prop}
    (preserved : ∀ state event, invariant state → ¬ bad state event →
      invariant (step state event))
    {start : State} (initially : invariant start) {events : List Event}
    (never : ∀ index, ¬ OccursAt step start events bad index) :
    invariant (stateAfter step start events) := by
  induction events using List.reverseRecOn with
  | nil => exact initially
  | append_singleton events event inductionHypothesis =>
      rw [stateAfter_snoc]
      obtain ⟨before, last⟩ := (never_occursAt_snoc ..).mp never
      exact preserved _ _ (inductionHypothesis before) last

/-- The last step either sets the observation itself or keeps what held before it. -/
theorem since_snoc (start : State) (events : List Event) (event : Event)
    (sets clears : State → Event → Prop) :
    Since step start (events ++ [event]) sets clears ↔
      sets (stateAfter step start events) event ∨
        Since step start events sets clears ∧
          ¬ clears (stateAfter step start events) event := by
  constructor
  · rintro ⟨index, occurred, notAfter⟩
    rcases (occursAt_snoc ..).mp occurred with earlier | ⟨-, last⟩
    · refine .inr ⟨⟨index, earlier, fun later after cleared => ?_⟩, fun cleared => ?_⟩
      · exact notAfter later after ((occursAt_snoc ..).mpr (.inl cleared))
      · exact notAfter events.length earlier.lt_length
          ((occursAt_snoc ..).mpr (.inr ⟨rfl, cleared⟩))
    · exact .inl last
  · rintro (last | ⟨⟨index, occurred, notAfter⟩, kept⟩)
    · refine ⟨events.length, (occursAt_snoc ..).mpr (.inr ⟨rfl, last⟩), ?_⟩
      intro later after cleared
      have bound := cleared.lt_length
      simp only [List.length_append, List.length_singleton] at bound
      omega
    · refine ⟨index, (occursAt_snoc ..).mpr (.inl occurred), fun later after cleared => ?_⟩
      rcases (occursAt_snoc ..).mp cleared with earlier | ⟨-, last⟩
      · exact notAfter later after earlier
      · exact kept last

/-- Where one step turns an observation on exactly when it `sets` it and off
exactly when it `clears` it, the observation of the final state is the history. -/
theorem observed_iff_since {invariant : State → Prop} (observed : State → Prop)
    {sets clears : State → Event → Prop}
    (preserved : ∀ state event, invariant state → invariant (step state event))
    (eachStep : ∀ state event, invariant state →
      (observed (step state event) ↔
        sets state event ∨ observed state ∧ ¬ clears state event))
    {start : State} (initially : invariant start) (initiallyNot : ¬ observed start)
    (events : List Event) :
    observed (stateAfter step start events) ↔ Since step start events sets clears := by
  induction events using List.reverseRecOn with
  | nil =>
      refine iff_of_false initiallyNot ?_
      rintro ⟨index, occurred, -⟩
      exact not_occursAt_nil step start sets index occurred
  | append_singleton events event inductionHypothesis =>
      have holds := stateAfter_invariant step preserved initially events
      rw [stateAfter_snoc, eachStep _ _ holds, since_snoc, inductionHypothesis]

/-- Without anything that clears it, an observation holds once it was set. -/
theorem since_never_cleared (start : State) (events : List Event)
    (sets : State → Event → Prop) :
    Since step start events sets (fun _ _ => False) ↔
      ∃ index, OccursAt step start events sets index := by
  constructor
  · rintro ⟨index, occurred, -⟩
    exact ⟨index, occurred⟩
  · rintro ⟨index, occurred⟩
    refine ⟨index, occurred, ?_⟩
    rintro later - ⟨event, -, impossible⟩
    exact impossible

end AcademicCredential.Lib
