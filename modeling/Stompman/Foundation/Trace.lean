import Mathlib.Data.List.Basic

/-!
# Traces whose events are justified by what came before or after

A safety property of a run is often a condition on each event of its trace and the events before it,
or says that events of one kind are followed by events of another.  Such properties are extended
event by event.
-/

namespace Foundation

variable {α : Type} {requires : α → List α → Prop}

/-- Every event of the trace meets a requirement on the events before it. -/
def EveryAfter (requires : α → List α → Prop) (trace : List α) : Prop :=
  ∀ before event later, trace = before ++ event :: later → requires event before

namespace EveryAfter

theorem nil : EveryAfter requires [] := by
  intro before event later split
  simp at split

theorem concat {trace : List α} {event : α} (every : EveryAfter requires trace)
    (last : requires event trace) : EveryAfter requires (trace ++ [event]) := by
  intro before other later split
  rcases List.eq_nil_or_concat later with rfl | ⟨front, final, rfl⟩
  · obtain ⟨rfl, same⟩ := List.append_inj' split rfl
    obtain rfl : event = other := by simpa using same
    exact last
  · rw [List.concat_eq_append, ← List.cons_append, ← List.append_assoc] at split
    obtain ⟨shorter, -⟩ := List.append_inj' split rfl
    exact every before other front shorter

/-- Events that are justified by the trace so far, when more events do not undo a justification. -/
theorem append {trace : List α} (every : EveryAfter requires trace)
    (mono : ∀ event before more, requires event before → requires event (before ++ more))
    {events : List α} (each : ∀ event ∈ events, requires event trace) :
    EveryAfter requires (trace ++ events) := by
  induction events generalizing trace with
  | nil => simpa using every
  | cons event events ih =>
      have first := every.concat (each event List.mem_cons_self)
      have rest := ih first fun other member =>
        mono other trace [event] (each other (List.mem_cons_of_mem _ member))
      simpa using rest

/-- Events that need no justification. -/
theorem append_of_free {trace : List α} (every : EveryAfter requires trace) {events : List α}
    (free : ∀ event ∈ events, ∀ before, requires event before) :
    EveryAfter requires (trace ++ events) := by
  induction events generalizing trace with
  | nil => simpa using every
  | cons event events ih =>
      have first := every.concat (free event List.mem_cons_self trace)
      have rest := ih first fun other member => free other (List.mem_cons_of_mem _ member)
      simpa using rest

end EveryAfter

/-- Every element of one kind is followed by an element of another. -/
def FollowedBy (starts ends : α → Prop) (trace : List α) : Prop :=
  ∀ before element later, starts element → trace = before ++ element :: later →
    ∃ other ∈ later, ends other

namespace FollowedBy

variable {starts ends : α → Prop} {trace : List α}

theorem of_none (none : ∀ element ∈ trace, ¬ starts element) : FollowedBy starts ends trace := by
  intro before element later start split
  exact absurd start (none element (by simp [split]))

theorem append (follows : FollowedBy starts ends trace) {elements : List α}
    (none : ∀ element ∈ elements, ¬ starts element) :
    FollowedBy starts ends (trace ++ elements) := by
  intro before element later start split
  rcases List.append_eq_append_iff.mp split with ⟨gap, -, rest⟩ | ⟨gap, same, rest⟩
  · exact absurd start (none element (by simp [rest]))
  · cases gap with
    | nil =>
        obtain rfl : element :: later = elements := rest
        exact absurd start (none element List.mem_cons_self)
    | cons first gap =>
        obtain ⟨rfl, rfl⟩ := List.cons.inj rest
        obtain ⟨other, member, ended⟩ := follows before element gap start same
        exact ⟨other, List.mem_append_left _ member, ended⟩

/-- A last element of the second kind follows all others. -/
theorem concat {last : α} (ended : ends last) (other : ¬ starts last) :
    FollowedBy starts ends (trace ++ [last]) := by
  intro before element later start split
  rcases List.eq_nil_or_concat later with rfl | ⟨init, final, rfl⟩
  · have same : last = element := by simpa using congrArg List.getLast? split
    exact absurd (same ▸ start) other
  · rw [List.concat_eq_append, ← List.cons_append, ← List.append_assoc] at split
    obtain ⟨-, same⟩ := List.append_inj' split rfl
    obtain rfl : last = final := by simpa using same
    exact ⟨last, by simp, ended⟩

end FollowedBy

/-- Every element that asks for a successor is directly followed by it. -/
def DirectlyFollowed (successor : α → Option α) (trace : List α) : Prop :=
  ∀ before element later other, successor element = some other →
    trace = before ++ element :: later → ∃ rest, later = other :: rest

namespace DirectlyFollowed

variable {successor : α → Option α} {trace : List α}

theorem nil : DirectlyFollowed successor [] := by
  intro before element later other _ split
  simp at split

theorem append (follows : DirectlyFollowed successor trace) {elements : List α}
    (added : DirectlyFollowed successor elements) :
    DirectlyFollowed successor (trace ++ elements) := by
  intro before element later other asks split
  rcases List.append_eq_append_iff.mp split with ⟨gap, -, rest⟩ | ⟨gap, same, rest⟩
  · exact added gap element later other asks rest
  · cases gap with
    | nil => exact added [] element later other asks rest.symm
    | cons first gap =>
        obtain ⟨rfl, rfl⟩ := List.cons.inj rest
        obtain ⟨between, rfl⟩ := follows before element gap other asks same
        exact ⟨between ++ elements, rfl⟩

theorem of_none (none : ∀ element ∈ trace, successor element = none) :
    DirectlyFollowed successor trace := by
  intro before element later other asks split
  rw [none element (by simp [split])] at asks
  contradiction

theorem pair {first second : α} (asks : successor first = some second)
    (last : successor second = none) : DirectlyFollowed successor [first, second] := by
  intro before element later other wanted split
  cases before with
  | nil =>
      obtain ⟨rfl, rfl⟩ := List.cons.inj split
      obtain rfl := Option.some.inj (asks.symm.trans wanted)
      exact ⟨[], rfl⟩
  | cons head before =>
      have member : element ∈ [second] := by
        rw [(List.cons.inj split).2]
        simp
      rw [List.mem_singleton.mp member, last] at wanted
      contradiction

end DirectlyFollowed

/-- The last element of one kind meets a requirement on the elements before it and those since. -/
def Since (starts : α → Prop) (meets : List α → α → List α → Prop) (trace : List α) : Prop :=
  ∀ before element later, trace = before ++ element :: later → starts element →
    (∀ other ∈ later, ¬ starts other) → meets before element later

namespace Since

variable {starts : α → Prop} {meets : List α → α → List α → Prop} {trace : List α}

theorem nil : Since starts meets [] := by
  intro before element later split
  simp at split

theorem append (since : Since starts meets trace) {elements : List α}
    (none : ∀ element ∈ elements, ¬ starts element)
    (mono : ∀ before element later, meets before element later →
      meets before element (later ++ elements)) : Since starts meets (trace ++ elements) := by
  intro before element later split start last
  rcases List.append_eq_append_iff.mp split with ⟨gap, -, rest⟩ | ⟨gap, same, rest⟩
  · exact absurd start (none element (by simp [rest]))
  · cases gap with
    | nil =>
        obtain rfl : element :: later = elements := rest
        exact absurd start (none element List.mem_cons_self)
    | cons first gap =>
        obtain ⟨rfl, rfl⟩ := List.cons.inj rest
        refine mono before element gap (since before element gap same start ?_)
        exact fun other member => last other (List.mem_append_left _ member)

/-- There is only one last element. -/
theorem of_split {before later : List α} {element : α} (split : trace = before ++ element :: later)
    (begins : starts element) (last : ∀ other ∈ later, ¬ starts other)
    (met : meets before element later) :
    Since starts meets trace := by
  intro front other back same start final
  rw [split] at same
  rcases List.append_eq_append_iff.mp same with ⟨gap, equal, rest⟩ | ⟨gap, equal, rest⟩
  · cases gap with
    | nil =>
        obtain ⟨rfl, rfl⟩ := List.cons.inj rest
        rw [equal, List.append_nil]
        exact met
    | cons first gap =>
        obtain ⟨-, remaining⟩ := List.cons.inj rest
        exact absurd start (last other (by simp [remaining]))
  · cases gap with
    | nil =>
        obtain ⟨rfl, rfl⟩ := List.cons.inj rest
        rw [List.append_nil] at equal
        exact equal ▸ met
    | cons first gap =>
        obtain ⟨-, remaining⟩ := List.cons.inj rest
        exact absurd begins (final element (by simp [remaining]))

end Since

end Foundation
