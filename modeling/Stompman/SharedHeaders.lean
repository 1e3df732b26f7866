import Stompman.Serde
import Stompman.Foundation.Transition

/-!
# Sends that share a header map

`SendFrame.build` works on `headers or {}`: it writes into the caller's own map unless that map is
empty, and the frame keeps a reference to it.  Here the map is a part of the state, a frame refers
to it or to a map of its own, and a frame is dumped with what its map holds at that moment.
-/

namespace Stompman

open Foundation

/-- Arguments of `Client.send` (no transaction) or `Transaction.send` apart from the shared
map. -/
structure SendCall where
  body : Bytes
  destination : String
  contentType : Option String := none
  addContentLength : Bool := true
  transaction : Option String := none
  deriving DecidableEq

namespace SendCall

/-- The header map after the assignments of `SendFrame.build`. -/
def assign (call : SendCall) (headers : Headers) : Headers :=
  (sendFrame ⟨call.body, call.destination, call.contentType, call.addContentLength, some headers⟩
    call.transaction).headers

/-- The header that a call asks for under a name. -/
def own (call : SendCall) (key : String) : Option String :=
  if key = "destination" then some call.destination
  else if key = "content-length" then
    if call.addContentLength then some (toString call.body.length) else none
  else if key = "content-type" then call.contentType
  else if key = "transaction" then call.transaction
  else none

/-- Every header that a call asks for is in a map already. -/
def Covered (original : Headers) (call : SendCall) : Prop :=
  ∀ key value, call.own key = some value → original.get? key = some value

/-- The names under which a call may ask for a header. -/
def names : List String := ["destination", "content-length", "content-type", "transaction"]

theorem covered_of_names (call : SendCall) {original : Headers}
    (covered : ∀ key ∈ names, ∀ value ∈ call.own key, original.get? key = some value) :
    call.Covered original := by
  intro key value asked
  refine covered key ?_ value asked
  by_contra other
  simp only [names, List.mem_cons, List.not_mem_nil, or_false, not_or] at other
  obtain ⟨destination, length, type, transaction⟩ := other
  rw [own, if_neg destination, if_neg length, if_neg type, if_neg transaction] at asked
  contradiction

theorem get?_assign (call : SendCall) (headers : Headers) (key : String) :
    (call.assign headers).get? key = (call.own key).or (headers.get? key) := by
  obtain ⟨body, destination, contentType, addContentLength, transaction⟩ := call
  unfold assign sendFrame own
  cases contentType <;> cases addContentLength <;> cases transaction <;>
    simp only [Option.getD_some, Option.map_some, Option.map_none, Option.getD_none,
      Dict.get?_set, if_true, Bool.false_eq_true, if_false] <;>
    split_ifs <;> simp_all

end SendCall

/-- The map that a frame holds. -/
inductive HeaderReference
  /-- The caller's map. -/
  | callers
  /-- A map made for this frame. -/
  | own (headers : Headers)
  deriving DecidableEq

/-- A `SendFrame` in memory. -/
structure SendObject where
  headers : HeaderReference
  body : Bytes
  deriving DecidableEq

/-- The caller's map, the frames built so far, and the frames as they were dumped, each with its
index. -/
structure SharedSends where
  headers : Headers
  objects : List SendObject := []
  dumped : List (Nat × Frame) := []

/-- A call of `send` up to its first write, and the dump of a frame by a first write, a retry or a
replay. -/
inductive SendAction
  | send (call : SendCall)
  | dump (index : Nat)
  deriving DecidableEq

namespace SharedSends

/-- What a reference stands for at present. -/
def contents (state : SharedSends) : HeaderReference → Headers
  | .callers => state.headers
  | .own headers => headers

/-- `SendFrame.build` with the shared map: an empty map is replaced by a new one. -/
def build (state : SharedSends) (call : SendCall) : SharedSends :=
  if state.headers.entries = [] then
    { state with objects := state.objects ++ [⟨.own (call.assign Dict.empty), call.body⟩] }
  else
    { state with
      headers := call.assign state.headers
      objects := state.objects ++ [⟨.callers, call.body⟩] }

/-- The frame that `dump_frame` gets. -/
def frame (state : SharedSends) (object : SendObject) : Frame :=
  ⟨.send, state.contents object.headers, object.body, fun without => Bool.noConfusion without⟩

/-- Calls and dumps, in any order. -/
def step (state : SharedSends) : SendAction → Option SharedSends
  | .send call => some (state.build call)
  | .dump index =>
      state.objects[index]?.map fun object =>
        { state with dumped := state.dumped ++ [(index, state.frame object)] }

/-- A sequence of calls and dumps. -/
def run (state : SharedSends) : List SendAction → Option SharedSends
  | [] => some state
  | action :: actions => (state.step action).bind fun next => next.run actions

end SharedSends

/-- The call of an action. -/
def SendAction.call? : SendAction → Option SendCall
  | .send call => some call
  | .dump _ => none

/-- The calls of a sequence, in order; the frame of a call has its index. -/
def SendAction.calls (actions : List SendAction) : List SendCall := actions.filterMap call?

namespace SharedSends

variable {original : Headers} {state next final : SharedSends} {call : SendCall}
  {calls : List SendCall} {actions : List SendAction}

/-- A header map holds the original entries, overridden by those a call asks for. -/
def Overrides (original : Headers) (call : SendCall) (headers : Headers) : Prop :=
  ∀ key, headers.get? key = (call.own key).or (original.get? key)

/-- The caller's map is unchanged, and every frame was dumped with the original entries overridden
by those of its own call. -/
structure Independent (original : Headers) (calls : List SendCall) (state : SharedSends) :
    Prop where
  unchanged : ∀ key, state.headers.get? key = original.get? key
  dumps : ∀ dump ∈ state.dumped, ∃ call, calls[dump.1]? = some call ∧
    dump.2.body = call.body ∧ Overrides original call dump.2.headers

/-- A sequence keeps its sends apart from each other at each of its steps. -/
def KeepsApart (original : Headers) (actions : List SendAction) : Prop :=
  ∀ front, front <+: actions → ∀ state, run { headers := original } front = some state →
    Independent original (SendAction.calls front) state

theorem run_append (state : SharedSends) (front rest : List SendAction) :
    state.run (front ++ rest) = (state.run front).bind fun middle => middle.run rest := by
  induction front generalizing state with
  | nil => rfl
  | cons action front ih =>
      simp only [List.cons_append, run]
      cases state.step action with
      | none => rfl
      | some next => exact ih next

theorem entries_eq_nil_iff (headers : Headers) :
    headers.entries = [] ↔ ∀ key, headers.get? key = none := by
  constructor
  · intro empty key
    rw [Dict.get?, empty]
    rfl
  · intro missing
    cases entries_eq : headers.entries with
    | nil => rfl
    | cons entry entries =>
        have found : headers.get? entry.1 = some entry.2 :=
          (Dict.get?_eq_some_iff _ _ _).mpr (by simp [entries_eq])
        rw [missing] at found
        contradiction

theorem entries_eq_nil_congr {headers : Headers}
    (same : ∀ key, headers.get? key = original.get? key) :
    headers.entries = [] ↔ original.entries = [] := by
  simp only [entries_eq_nil_iff, same]

/-- The condition under which one call leaves the caller's map as it is. -/
def Harmless (original : Headers) (call : SendCall) : Prop :=
  original.entries = [] ∨ call.Covered original

/-- Besides, every frame built so far would be dumped so. -/
structure Apart (original : Headers) (calls : List SendCall) (state : SharedSends) : Prop
    extends Independent original calls state where
  built : List.Forall₂ (fun call object => object.body = call.body ∧
    Overrides original call (state.contents object.headers)) calls state.objects

theorem overrides_of_covered {headers : Headers}
    (unchanged : ∀ key, headers.get? key = original.get? key) (covered : call.Covered original) :
    Overrides original call headers := by
  intro key
  rw [unchanged]
  cases asked : call.own key with
  | none => rfl
  | some value => rw [covered key value asked, Option.some_or]

theorem Apart.dumps_append (apart : Apart original calls state) (call : SendCall) :
    ∀ dump ∈ state.dumped, ∃ other, (calls ++ [call])[dump.1]? = some other ∧
      dump.2.body = other.body ∧ Overrides original other dump.2.headers := by
  intro dump member
  obtain ⟨other, found, dumped⟩ := apart.dumps dump member
  obtain ⟨within, -⟩ := List.getElem?_eq_some_iff.mp found
  exact ⟨other, by rw [List.getElem?_append_left within, found], dumped⟩

/-- The contents of a frame's map depend on the caller's map only. -/
theorem contents_of_unchanged {other : SharedSends}
    (same : ∀ key, other.headers.get? key = state.headers.get? key)
    (reference : HeaderReference) (key : String) :
    (other.contents reference).get? key = (state.contents reference).get? key := by
  cases reference with
  | callers => exact same key
  | own headers => rfl

theorem Apart.build (apart : Apart original calls state) (harmless : Harmless original call) :
    Apart original (calls ++ [call]) (state.build call) := by
  unfold SharedSends.build
  by_cases empty : state.headers.entries = []
  · rw [if_pos empty]
    have missing : ∀ key, original.get? key = none := fun key =>
      (apart.unchanged key).symm.trans ((entries_eq_nil_iff _).mp empty key)
    refine ⟨⟨apart.unchanged, apart.dumps_append call⟩, ?_⟩
    refine List.rel_append apart.built (.cons ⟨rfl, fun key => ?_⟩ .nil)
    rw [contents, call.get?_assign, Dict.get?_empty, missing]
  · rw [if_neg empty]
    have filled : original.entries ≠ [] := fun missing =>
      empty ((entries_eq_nil_congr apart.unchanged).mpr missing)
    have covered := harmless.resolve_left filled
    have same : ∀ key, (call.assign state.headers).get? key = state.headers.get? key := by
      intro key
      rw [call.get?_assign, apart.unchanged,
        ← overrides_of_covered (fun _ => rfl) covered]
    have unchanged : ∀ key, (call.assign state.headers).get? key = original.get? key :=
      fun key => (same key).trans (apart.unchanged key)
    refine ⟨⟨unchanged, apart.dumps_append call⟩, ?_⟩
    refine List.rel_append (apart.built.imp fun other object built => ?_)
      (.cons ⟨rfl, overrides_of_covered unchanged covered⟩ .nil)
    refine ⟨built.1, fun key => ?_⟩
    rw [contents_of_unchanged same, built.2]

theorem Apart.dump (apart : Apart original calls state) {index : Nat}
    (stepped : state.step (.dump index) = some next) : Apart original calls next := by
  obtain ⟨object, found, rfl⟩ := Option.map_eq_some_iff.mp stepped
  refine ⟨⟨apart.unchanged, ?_⟩, apart.built⟩
  rw [List.forall_mem_append]
  refine ⟨apart.dumps, ?_⟩
  intro dump member
  obtain rfl := List.mem_singleton.mp member
  obtain ⟨within, at_index⟩ := List.getElem?_eq_some_iff.mp found
  have within_calls : index < calls.length := by rwa [apart.built.length_eq]
  have built := apart.built.get within_calls within
  rw [List.get_eq_getElem, List.get_eq_getElem, at_index] at built
  exact ⟨calls[index], List.getElem?_eq_getElem within_calls, built⟩

/-- A sequence of harmless calls. -/
theorem Apart.run (apart : Apart original calls state)
    (harmless : ∀ call ∈ SendAction.calls actions, Harmless original call)
    (ran : state.run actions = some final) :
    Apart original (calls ++ SendAction.calls actions) final := by
  induction actions generalizing state calls with
  | nil =>
      obtain rfl := Option.some.inj ran
      simpa [SendAction.calls] using apart
  | cons action actions ih =>
      obtain ⟨next, stepped, later⟩ := Option.bind_eq_some_iff.mp ran
      cases action with
      | send call =>
          obtain rfl := Option.some.inj stepped
          have first : Harmless original call :=
            harmless call (by simp [SendAction.calls, SendAction.call?])
          have rest := ih (apart.build first)
            (fun other member => harmless other (List.mem_cons_of_mem call member)) later
          simpa [SendAction.calls, SendAction.call?] using rest
      | dump index => exact ih (apart.dump stepped) harmless later

theorem apart_initial (original : Headers) : Apart original [] { headers := original } :=
  ⟨⟨fun _ => rfl, by simp⟩, .nil⟩

theorem keepsApart_of_harmless
    (harmless : ∀ call ∈ SendAction.calls actions, Harmless original call) :
    KeepsApart original actions := by
  rintro front ⟨rest, rfl⟩ state ran
  have front_harmless : ∀ call ∈ SendAction.calls front, Harmless original call := by
    intro call member
    refine harmless call ?_
    rw [SendAction.calls, List.filterMap_append]
    exact List.mem_append_left _ member
  exact ((apart_initial original).run front_harmless ran).toIndependent

/-- A call that keeps the caller's map as it is asks for nothing new. -/
theorem harmless_of_unchanged (before : ∀ key, state.headers.get? key = original.get? key)
    (after : ∀ key, (state.build call).headers.get? key = original.get? key) :
    Harmless original call := by
  by_cases empty : original.entries = []
  · exact .inl empty
  refine .inr fun key value asked => ?_
  have filled : state.headers.entries ≠ [] := fun missing =>
    empty ((entries_eq_nil_congr before).mp missing)
  have assigned := after key
  rw [build, if_neg filled, call.get?_assign, asked, Option.some_or] at assigned
  exact assigned.symm

/-- Sends that share a map are independent of each other exactly if the map is empty or already
holds every header that one of the calls asks for. -/
theorem keepsApart_iff (ran : run { headers := original } actions = some final) :
    KeepsApart original actions ↔
      original.entries = [] ∨ ∀ call ∈ SendAction.calls actions, call.Covered original := by
  constructor
  · intro apart
    by_cases empty : original.entries = []
    · exact .inl empty
    refine .inr fun call member => ?_
    obtain ⟨action, listed, is_call⟩ := List.mem_filterMap.mp member
    obtain ⟨front, rest, rfl⟩ := List.append_of_mem listed
    cases action with
    | dump index => contradiction
    | send other =>
        obtain rfl := Option.some.inj is_call
        rw [run_append] at ran
        obtain ⟨state, before, -⟩ := Option.bind_eq_some_iff.mp ran
        have after : run { headers := original } (front ++ [.send other]) =
            some (state.build other) := by
          rw [run_append, before]
          rfl
        have kept := (apart front (List.prefix_append _ _) state before).unchanged
        have kept_after := (apart (front ++ [.send other]) ⟨rest, by simp⟩ _ after).unchanged
        exact (harmless_of_unchanged kept kept_after).resolve_left empty
  · intro condition
    refine keepsApart_of_harmless fun call member => ?_
    exact condition.imp id fun covered => covered call member

/-- Two calls for one destination, each dumped twice, with a map that has their headers. -/
def repeatedSends : List SendAction :=
  [.send { body := [97], destination := "first" }, .dump 0,
    .send { body := [98], destination := "first" }, .dump 1, .dump 0]

/-- Such a map stays as it is. -/
theorem repeatedSends_apart :
    KeepsApart (Dict.empty.update [("destination", "first"), ("content-length", "1")])
      repeatedSends := by
  have covered : ∀ call ∈ SendAction.calls repeatedSends, ∀ key ∈ SendCall.names,
      ∀ value ∈ call.own key, (Dict.empty.update
        [("destination", "first"), ("content-length", "1")] : Headers).get? key = some value := by
    decide +kernel
  refine (@keepsApart_iff _ _ _ rfl).mpr (.inr fun call member => ?_)
  exact call.covered_of_names (covered call member)

/-- A transactional call and a plain one, and the dump of the second and then the first frame. -/
def inheritedSends : List SendAction :=
  [.send { body := [97], destination := "first", transaction := some "t" },
    .send { body := [], destination := "second" }, .dump 1, .dump 0]

/-- The headers of a dump that the calls ask for. -/
def dumpedHeaders (dump : Nat × Frame) : Nat × List (Option String) :=
  (dump.1, ["destination", "transaction", "content-length"].map dump.2.headers.get?)

/-- The plain frame inherits the transaction of the other one, which gets the destination and the
length of the plain one. -/
theorem inheritedSends_not_apart :
    ((run { headers := Dict.empty.set "a" "b" } inheritedSends).map fun final =>
        final.dumped.map dumpedHeaders) =
        some [(1, [some "second", some "t", some "0"]), (0, [some "second", some "t", some "0"])] ∧
      ¬ KeepsApart (Dict.empty.set "a" "b") inheritedSends := by
  refine ⟨by decide +kernel, fun apart => ?_⟩
  have first := apart (inheritedSends.take 1) (List.take_prefix _ _) _ rfl
  have unchanged := first.unchanged "destination"
  revert unchanged
  decide +kernel

end SharedSends

end Stompman
