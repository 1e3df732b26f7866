import Stompman.Foundation.Heap
import Stompman.SharedHeaders

/-!
# Publishing through FastStream

`StompProducer` passes to `send` a copy of the headers of a command, made anew for every body.  Then
`SendFrame.build` writes into the copy, and a frame that is written again later, by a retry or by
the replay of its transaction, is what it was when it was published, whatever the caller has done to
its map in the meantime.

Header maps are cells of a heap here, and the caller, commands and frames hold them by address.
This is compared with publishing by value.
-/

namespace Stompman

open Foundation

/-- `StompPublishCommand`, with the number of the map that it holds as its headers: a map of the
caller, or one that was made with the command. -/
structure StompPublishCommand where
  destination : String
  correlationId : Option String := none
  headers : Nat

/-- `_make_headers_for_publish`, after the copy. -/
def makeHeadersForPublish (command : StompPublishCommand) (headers : Headers) : Headers :=
  match command.correlationId with
  | none => headers
  | some correlationId =>
      if correlationId = "" then headers else headers.set "correlation-id" correlationId

/-- The arguments of `send` for an encoded body. -/
def StompPublishCommand.call (command : StompPublishCommand) (transaction : Option String)
    (encoded : Bytes × Option String) : SendCall :=
  { body := encoded.1
    destination := command.destination
    contentType := encoded.2
    transaction := transaction }

/-- What the caller, the producer and the client do. -/
inductive PublishAction (β : Type)
  /-- A map is made, by the caller or for a command without headers. -/
  | create (headers : Headers)
  /-- The caller changes one of its maps. -/
  | change (map : Nat) (headers : Headers)
  /-- A body is sent: by `publish`, or in a transaction by `publish_batch`. -/
  | publish (command : StompPublishCommand) (body : β) (transaction : Option String)
  /-- A frame is dumped by a first write, a retry or a replay. -/
  | dump (index : Nat)

/-! ## By reference -/

/-- Header maps in memory, those of the caller, the frames built so far, and the frames as they were
dumped, each with its index. -/
structure Publishing where
  heap : Heap Headers := {}
  callers : List Nat := []
  /-- The map and the body of each frame. -/
  objects : List (Nat × Bytes) := []
  dumped : List (Nat × Frame) := []

namespace Publishing

/-- `SendFrame.build` with a map: an empty map is replaced by a new one. -/
def build (heap : Heap Headers) (address : Nat) (headers : Headers) (call : SendCall) :
    Heap Headers × Nat :=
  if headers.entries = [] then (heap.alloc (call.assign Dict.empty), heap.size)
  else (heap.write address (call.assign headers), address)

/-- `send` with a copy of the headers of a command. -/
def publish (state : Publishing) (command : StompPublishCommand) (headers : Headers)
    (call : SendCall) : Publishing :=
  let copy := makeHeadersForPublish command headers
  let (heap, address) := build (state.heap.alloc copy) state.heap.size copy call
  { state with heap, objects := state.objects ++ [(address, call.body)] }

/-- A SEND frame. -/
def sendObject (headers : Headers) (body : Bytes) : Frame :=
  ⟨.send, headers, body, fun without => Bool.noConfusion without⟩

/-- One action; a body that cannot be encoded raises before anything is sent. -/
def step {β : Type} (encodeMessage : β → Option (Bytes × Option String)) (state : Publishing) :
    PublishAction β → Option Publishing
  | .create headers =>
      some { state with
        heap := state.heap.alloc headers
        callers := state.callers ++ [state.heap.size] }
  | .change map headers =>
      state.callers[map]?.map fun address =>
        { state with heap := state.heap.write address headers }
  | .publish command body transaction =>
      state.callers[command.headers]?.bind fun address =>
        (state.heap.read address).map fun headers =>
          match encodeMessage body with
          | none => state
          | some encoded => state.publish command headers (command.call transaction encoded)
  | .dump index =>
      state.objects[index]?.bind fun (address, body) =>
        (state.heap.read address).map fun headers =>
          { state with dumped := state.dumped ++ [(index, sendObject headers body)] }

/-- A sequence of actions. -/
def run {β : Type} (encodeMessage : β → Option (Bytes × Option String)) (state : Publishing) :
    List (PublishAction β) → Option Publishing
  | [] => some state
  | action :: actions =>
      (state.step encodeMessage action).bind fun next => next.run encodeMessage actions

end Publishing

/-! ## By value -/

/-- The maps of the caller, the frames published so far, and the frames as they were dumped. -/
structure Published where
  maps : List Headers := []
  frames : List Frame := []
  dumped : List (Nat × Frame) := []

namespace Published

/-- The frame of a body: the headers of the command as they are now, overridden by the correlation
id and by what `send` sets. -/
def frame (command : StompPublishCommand) (headers : Headers) (call : SendCall) : Frame :=
  Publishing.sendObject (call.assign (makeHeadersForPublish command headers)) call.body

/-- One action. -/
def step {β : Type} (encodeMessage : β → Option (Bytes × Option String)) (state : Published) :
    PublishAction β → Option Published
  | .create headers => some { state with maps := state.maps ++ [headers] }
  | .change map headers =>
      if map < state.maps.length then some { state with maps := state.maps.set map headers }
      else none
  | .publish command body transaction =>
      state.maps[command.headers]?.map fun headers =>
        match encodeMessage body with
        | none => state
        | some encoded =>
            { state with
              frames :=
                state.frames ++ [frame command headers (command.call transaction encoded)] }
  | .dump index =>
      state.frames[index]?.map fun frame =>
        { state with dumped := state.dumped ++ [(index, frame)] }

/-- A sequence of actions. -/
def run {β : Type} (encodeMessage : β → Option (Bytes × Option String)) (state : Published) :
    List (PublishAction β) → Option Published
  | [] => some state
  | action :: actions =>
      (state.step encodeMessage action).bind fun next => next.run encodeMessage actions

end Published

/-! ## Both agree -/

/-- What the caller sees of the state: its maps, the frames with the present contents of their maps,
and the dumps. -/
def Publishing.view (state : Publishing) : Published where
  maps := state.callers.filterMap state.heap.read
  frames := state.objects.filterMap fun (address, body) =>
    (state.heap.read address).map fun headers => Publishing.sendObject headers body
  dumped := state.dumped

/-- Every frame has a map that the caller does not hold, with the contents of the frame that was
published by value. -/
structure Simulates (state : Publishing) (published : Published) : Prop where
  maps : state.callers.map state.heap.read = published.maps.map some
  distinct : state.callers.Nodup
  frames : (state.objects.map fun object => (state.heap.read object.1).map fun headers =>
    Publishing.sendObject headers object.2) = published.frames.map some
  apart : ∀ object ∈ state.objects, object.1 ∉ state.callers
  dumped : state.dumped = published.dumped

namespace Simulates

variable {β : Type} {encodeMessage : β → Option (Bytes × Option String)} {state : Publishing}
  {published : Published} {heap : Heap Headers} {headers : Headers}

theorem read_caller (simulates : Simulates state published) (map : Nat) :
    (state.callers[map]?.bind fun address => state.heap.read address) = published.maps[map]? := by
  have same := congrArg (fun list => list[map]?) simulates.maps
  simp only [List.getElem?_map] at same
  cases caller : state.callers[map]? with
  | none =>
      rw [caller] at same
      cases found : published.maps[map]? with
      | none => rfl
      | some headers => simp [found] at same
  | some address =>
      rw [caller] at same
      cases found : published.maps[map]? with
      | none => simp [found] at same
      | some headers => simpa [found] using same

theorem isSome_of_caller (simulates : Simulates state published) {address : Nat}
    (member : address ∈ state.callers) : ∃ headers, state.heap.read address = some headers := by
  have read := List.mem_map_of_mem (f := state.heap.read) member
  rw [simulates.maps] at read
  obtain ⟨headers, -, found⟩ := List.mem_map.mp read
  exact ⟨headers, found.symm⟩

theorem isSome_of_object (simulates : Simulates state published) {object : Nat × Bytes}
    (member : object ∈ state.objects) : ∃ headers, state.heap.read object.1 = some headers := by
  have read := List.mem_map_of_mem (f := fun object : Nat × Bytes =>
    (state.heap.read object.1).map fun headers => Publishing.sendObject headers object.2) member
  rw [simulates.frames] at read
  obtain ⟨frame, -, found⟩ := List.mem_map.mp read
  obtain ⟨headers, known, -⟩ := Option.map_eq_some_iff.mp found.symm
  exact ⟨headers, known⟩

theorem lt_size_of_caller (simulates : Simulates state published) {address : Nat}
    (member : address ∈ state.callers) : address < state.heap.size := by
  obtain ⟨headers, found⟩ := simulates.isSome_of_caller member
  exact Heap.lt_size_of_read found

theorem lt_size_of_object (simulates : Simulates state published) {object : Nat × Bytes}
    (member : object ∈ state.objects) : object.1 < state.heap.size := by
  obtain ⟨headers, found⟩ := simulates.isSome_of_object member
  exact Heap.lt_size_of_read found

/-- New cells concern neither the caller nor the frames. -/
theorem with_heap (simulates : Simulates state published)
    (kept : ∀ address < state.heap.size, heap.read address = state.heap.read address) :
    Simulates { state with heap } published := by
  refine ⟨?_, simulates.distinct, ?_, simulates.apart, simulates.dumped⟩
  · rw [← simulates.maps]
    exact List.map_congr_left fun address member => kept _ (simulates.lt_size_of_caller member)
  · rw [← simulates.frames]
    refine List.map_congr_left fun object member => ?_
    rw [kept _ (simulates.lt_size_of_object member)]

theorem create (simulates : Simulates state published) (headers : Headers) :
    Simulates
      { state with
        heap := state.heap.alloc headers
        callers := state.callers ++ [state.heap.size] }
      { published with maps := published.maps ++ [headers] } := by
  have kept : ∀ address < state.heap.size,
      (state.heap.alloc headers).read address = state.heap.read address :=
    fun _ within => Heap.read_alloc_of_lt within
  obtain ⟨maps, distinct, frames, apart, dumped⟩ := simulates.with_heap kept
  refine ⟨?_, ?_, frames, ?_, dumped⟩
  · simp only [List.map_append, List.map_cons, List.map_nil, Heap.read_alloc_size]
    rw [show state.callers.map (state.heap.alloc headers).read = _ from maps]
  · rw [List.nodup_append]
    refine ⟨distinct, List.nodup_singleton _, ?_⟩
    intro address member size is_size
    rw [List.mem_singleton.mp is_size]
    exact Nat.ne_of_lt (simulates.lt_size_of_caller member)
  · intro object member
    rw [List.mem_append, List.mem_singleton]
    rintro (own | new)
    · exact apart object member own
    · exact absurd new (Nat.ne_of_lt (simulates.lt_size_of_object member))

/-- The caller changes one of its maps, and no other map and no frame changes with it. -/
theorem change (simulates : Simulates state published) {map address : Nat}
    (caller : state.callers[map]? = some address) (headers : Headers) :
    Simulates { state with heap := state.heap.write address headers }
      { published with maps := published.maps.set map headers } := by
  have member := List.mem_of_getElem? caller
  obtain ⟨old, found⟩ := simulates.isSome_of_caller member
  refine ⟨?_, simulates.distinct, ?_, simulates.apart, simulates.dumped⟩
  · rw [List.map_set, ← simulates.maps]
    refine List.ext_getElem? fun index => ?_
    rw [List.getElem?_set, List.getElem?_map, List.getElem?_map]
    split
    · rename_i same
      subst same
      rw [caller, Option.map_some, Heap.read_write found, List.length_map,
        if_pos (List.getElem?_eq_some_iff.mp caller).1]
    · rename_i different
      cases other : state.callers[index]? with
      | none => rfl
      | some another =>
          rw [Option.map_some, Option.map_some, Heap.read_write_of_ne]
          rintro rfl
          have within := (List.getElem?_eq_some_iff.mp caller).1
          exact different ((List.getElem?_inj within simulates.distinct).mp
            (caller.trans other.symm))
  · rw [← simulates.frames]
    refine List.map_congr_left fun object listed => ?_
    rw [Heap.read_write_of_ne]
    rintro same
    exact simulates.apart object listed (same ▸ member)

/-- The copy of the headers is a new cell, and so is the map of the frame. -/
theorem build_copy (heap : Heap Headers) (copy : Headers) (call : SendCall) :
    heap.size ≤ (Publishing.build (heap.alloc copy) heap.size copy call).2 ∧
    (Publishing.build (heap.alloc copy) heap.size copy call).1.read
      (Publishing.build (heap.alloc copy) heap.size copy call).2 = some (call.assign copy) ∧
    ∀ address < heap.size,
      (Publishing.build (heap.alloc copy) heap.size copy call).1.read address =
        heap.read address := by
  unfold Publishing.build
  split
  · rename_i empty
    obtain rfl : copy = Dict.empty := by
      obtain ⟨entries, nodup⟩ := copy
      obtain rfl : entries = [] := empty
      rfl
    refine ⟨?_, Heap.read_alloc_size, fun address within => ?_⟩
    · simp [Heap.size, Heap.alloc]
    · rw [Heap.read_alloc_of_lt (Nat.lt_of_lt_of_le within (by simp [Heap.size, Heap.alloc])),
        Heap.read_alloc_of_lt within]
  · refine ⟨Nat.le_refl _, Heap.read_write Heap.read_alloc_size, fun address within => ?_⟩
    rw [Heap.read_write_of_ne (Nat.ne_of_lt within), Heap.read_alloc_of_lt within]

theorem publish (simulates : Simulates state published) (command : StompPublishCommand)
    (headers : Headers) (call : SendCall) :
    Simulates (state.publish command headers call)
      { published with frames := published.frames ++ [Published.frame command headers call] } := by
  obtain ⟨fresh, built, kept⟩ :=
    build_copy state.heap (makeHeadersForPublish command headers) call
  obtain ⟨maps, distinct, frames, apart, dumped⟩ := simulates.with_heap kept
  refine ⟨maps, distinct, ?_, ?_, dumped⟩
  · simp only [Publishing.publish, List.map_append, List.map_cons, List.map_nil, built,
      Option.map_some]
    rw [show state.objects.map _ = _ from frames]
    rfl
  · intro object member
    rcases List.mem_append.mp member with known | new
    · exact apart object known
    · rw [List.mem_singleton.mp new]
      intro own
      exact Nat.not_lt.mpr fresh (simulates.lt_size_of_caller own)

/-- Both go on alike with every action. -/
theorem step (simulates : Simulates state published) (action : PublishAction β) :
    Option.Rel Simulates (state.step encodeMessage action)
      (published.step encodeMessage action) := by
  cases action with
  | create headers => exact .some (simulates.create headers)
  | change map headers =>
      have length : state.callers.length = published.maps.length := by
        have same := congrArg List.length simulates.maps
        simpa using same
      simp only [Publishing.step, Published.step]
      cases caller : state.callers[map]? with
      | none =>
          have beyond : ¬ map < published.maps.length := by
            rw [← length]
            simpa using caller
          rw [if_neg beyond]
          exact .none
      | some address =>
          rw [if_pos (length ▸ (List.getElem?_eq_some_iff.mp caller).1)]
          exact .some (simulates.change caller headers)
  | publish command body transaction =>
      have read := simulates.read_caller command.headers
      simp only [Publishing.step, Published.step]
      rw [← read]
      cases state.callers[command.headers]? with
      | none => exact .none
      | some address =>
          simp only [Option.bind_some]
          cases state.heap.read address with
          | none => exact .none
          | some headers =>
              cases encodeMessage body with
              | none => exact .some simulates
              | some encoded => exact .some (simulates.publish command headers _)
  | dump index =>
      have same := congrArg (fun list => list[index]?) simulates.frames
      simp only [List.getElem?_map] at same
      simp only [Publishing.step, Published.step]
      cases found : state.objects[index]? with
      | none =>
          rw [found] at same
          cases known : published.frames[index]? with
          | none => exact .none
          | some frame => simp [known] at same
      | some object =>
          rw [found] at same
          cases known : published.frames[index]? with
          | none => simp [known] at same
          | some frame =>
              simp only [known, Option.map_some, Option.some.injEq] at same
              obtain ⟨headers, read, rfl⟩ := Option.map_eq_some_iff.mp same
              simp only [Option.bind_some, read, Option.map_some]
              refine .some ⟨simulates.maps, simulates.distinct, simulates.frames, simulates.apart,
                ?_⟩
              rw [simulates.dumped]

theorem run (simulates : Simulates state published) (actions : List (PublishAction β)) :
    Option.Rel Simulates (state.run encodeMessage actions)
      (published.run encodeMessage actions) := by
  induction actions generalizing state published with
  | nil => exact .some simulates
  | cons action actions ih =>
      have stepped : Option.Rel Simulates (state.step encodeMessage action)
          (published.step encodeMessage action) := simulates.step action
      simp only [Publishing.run, Published.run]
      generalize state.step encodeMessage action = next at stepped
      generalize published.step encodeMessage action = after at stepped
      cases stepped with
      | none => exact .none
      | some later => exact ih later

theorem view_eq (simulates : Simulates state published) : state.view = published := by
  obtain ⟨heap, callers, objects, dumped⟩ := state
  obtain ⟨maps, frames, given⟩ := published
  obtain ⟨maps_eq, -, frames_eq, -, rfl⟩ := simulates
  have given_all : ∀ {α γ : Type} {read : α → Option γ} {list : List α} {values : List γ},
      list.map read = values.map some → list.filterMap read = values := by
    intro α γ read list values same
    calc
      list.filterMap read = (list.map read).filterMap id := by
          rw [List.filterMap_map, Function.id_comp]
      _ = (values.map some).filterMap id := by rw [same]
      _ = values := by simp [List.filterMap_map]
  simp only [Publishing.view, given_all maps_eq]
  congr 1
  exact given_all frames_eq

end Simulates

/-- Publishing by reference comes to the same as publishing by value, for all sequences of
publications, changes of the caller's maps and dumps: the caller finds in its maps what it has
written there, and every frame is dumped with the headers that its command had when it was
published. -/
theorem publishing_by_value {β : Type} (encodeMessage : β → Option (Bytes × Option String))
    (actions : List (PublishAction β)) :
    (Publishing.run encodeMessage {} actions).map Publishing.view =
      Published.run encodeMessage {} actions := by
  have initially : Simulates {} {} := ⟨rfl, List.nodup_nil, rfl, by simp, rfl⟩
  have ran : Option.Rel Simulates (Publishing.run encodeMessage {} actions)
      (Published.run encodeMessage {} actions) := initially.run actions
  generalize Publishing.run encodeMessage {} actions = final at ran
  generalize Published.run encodeMessage {} actions = expected at ran
  cases ran with
  | none => rfl
  | some simulates => exact congrArg some simulates.view_eq

end Stompman
