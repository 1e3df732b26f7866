import Stompman.Client
import Stompman.Publishing

/-!
# Header maps that callers lend

`SendFrame.build` writes into the map that it is given and keeps it, and a subscription keeps the
map of its headers, from which every SUBSCRIBE is built anew.  A frame is dumped with what its map
holds at that moment: by the first write, by a retry or by a replay.  Here the maps of the callers
are part of the state, so that one map may be passed to several calls, or changed in between.

As long as no map is passed to a send or changed while a frame or a subscription refers to it, every
frame that is dumped is the one that was built.
-/

namespace Stompman

open Foundation

/-- The arguments of a send apart from its map, and its transaction. -/
def Action.sendCall? : Action → Option SendCall
  | .send _ ⟨body, destination, contentType, addContentLength, _⟩ =>
      some ⟨body, destination, contentType, addContentLength, none⟩
  | .transactionSend id ⟨body, destination, contentType, addContentLength, _⟩ =>
      some ⟨body, destination, contentType, addContentLength, some id⟩
  | _ => none

/-- The frame that a send builds. -/
def Action.sent? : Action → Option Frame
  | .send _ arguments => some (sendFrame arguments none)
  | .transactionSend id arguments => some (sendFrame arguments (some id))
  | _ => none

/-- The call with these headers, for the calls that take a map. -/
def Action.passing (headers : Headers) : Action → Option Action
  | .send number arguments => some (.send number { arguments with headers := some headers })
  | .transactionSend id arguments =>
      some (.transactionSend id { arguments with headers := some headers })
  | .subscribe subscription => some (.subscribe { subscription with headers := some headers })
  | _ => none

/-- A client, the header maps of its callers, and the maps that frames and subscriptions refer to,
each with what it held when the frame was built or the subscription was made. -/
structure Lending where
  state : State
  maps : Heap Headers := {}
  held : List (Nat × Headers) := []

/-- Steps of a client and of callers that keep their header maps. -/
inductive LendingAction
  /-- A step of the client; a call passes a map that it has made for itself. -/
  | own (action : Action)
  /-- A caller makes a map. -/
  | create (headers : Headers)
  /-- A caller changes a map. -/
  | change (map : Nat) (headers : Headers)
  /-- A call is given a map of a caller, in place of the headers in its arguments. -/
  | lend (action : Action) (map : Nat)

namespace Lending

/-- The step of the client in a step. -/
def passes (lending : Lending) : LendingAction → Option Action
  | .own action => some action
  | .lend action map => (lending.maps.read map).bind action.passing
  | .create _ | .change .. => none

/-- A call that was given a map with these headers refers to it: a send writes its own headers into
it, or into a new map if it is empty. -/
def take (lending : Lending) (passed : Action) (map : Nat) (headers : Headers) : Lending :=
  match passed.sendCall?, passed.sent? with
  | some call, some frame =>
      let (maps, address) := Publishing.build lending.maps map headers call
      { lending with maps, held := lending.held ++ [(address, frame.headers)] }
  | _, _ => { lending with held := lending.held ++ [(map, headers)] }

/-- One step. -/
def step (settings : Settings) (lending : Lending) : LendingAction → Option Lending
  | .own action =>
      (Stompman.step settings lending.state action).map fun state => { lending with state }
  | .create headers => some { lending with maps := lending.maps.alloc headers }
  | .change map headers =>
      (lending.maps.read map).map fun _ => { lending with maps := lending.maps.write map headers }
  | .lend action map =>
      (lending.maps.read map).bind fun headers =>
        (action.passing headers).bind fun passed =>
          (Stompman.step settings lending.state passed).map fun state =>
            { lending.take passed map headers with state }

/-- Nothing refers to a map. -/
def free (lending : Lending) (map : Nat) : Bool :=
  lending.held.all fun object => object.1 ≠ map

/-- Steps at which no map is written to while something refers to it: it is not changed, and a send
is given it only if it is empty. -/
def keeps (lending : Lending) : LendingAction → Bool
  | .change map _ => lending.free map
  | .lend action map =>
      action.sendCall?.isNone || lending.free map || lending.maps.read map = some Dict.empty
  | .own _ | .create _ => true

/-- Steps that keep the maps apart and in which the client does what is allowed. -/
def Meets (allowed : State → Action → Prop) (lending : Lending) (action : LendingAction) : Prop :=
  lending.keeps action = true ∧
    ∀ passed, lending.passes action = some passed → allowed lending.state passed

/-- Every map that something refers to holds what it held at first, so that every frame is dumped as
it was built. -/
def Faithful (lending : Lending) : Prop :=
  ∀ object ∈ lending.held, lending.maps.read object.1 = some object.2

end Lending

/-- A client and its callers as a transition system. -/
def lends (settings : Settings) : System Lending LendingAction where
  initial := { state := (client settings).initial }
  step := Lending.step settings

namespace Lending

variable {settings : Settings} {lending after : Lending} {action : LendingAction}

/-! ## The client -/

theorem state_of_step (stepped : lending.step settings action = some after) :
    (lending.passes action = none ∧ after.state = lending.state) ∨
      ∃ passed, lending.passes action = some passed ∧
        Stompman.step settings lending.state passed = some after.state := by
  cases action with
  | own action =>
      obtain ⟨state, moved, rfl⟩ := Option.map_eq_some_iff.mp stepped
      exact .inr ⟨action, rfl, moved⟩
  | create headers =>
      obtain rfl := Option.some.inj stepped
      exact .inl ⟨rfl, rfl⟩
  | change map headers =>
      obtain ⟨_, -, rfl⟩ := Option.map_eq_some_iff.mp stepped
      exact .inl ⟨rfl, rfl⟩
  | lend action map =>
      obtain ⟨headers, found, later⟩ := Option.bind_eq_some_iff.mp stepped
      obtain ⟨passed, passing, last⟩ := Option.bind_eq_some_iff.mp later
      obtain ⟨state, moved, rfl⟩ := Option.map_eq_some_iff.mp last
      exact .inr ⟨passed, Option.bind_eq_some_iff.mpr ⟨headers, found, passing⟩, moved⟩

/-- Callers that share maps call a client that runs like any other. -/
theorem client_of_reaches {allowed : State → Action → Prop}
    (reach : (lends settings).Reaches (Meets allowed) lending) :
    (client settings).Reaches allowed lending.state := by
  refine System.Reaches.map Lending.state rfl ?_ reach
  intro before after action meets stepped
  rcases state_of_step stepped with ⟨-, same⟩ | ⟨passed, passes, moved⟩
  · exact .inl same
  · exact .inr ⟨passed, meets.2 passed passes, moved⟩

/-! ## The maps -/

theorem read_ne_of_free {map : Nat} (free : lending.free map = true) :
    ∀ object ∈ lending.held, object.1 ≠ map := by
  intro object member
  exact of_decide_eq_true (List.all_eq_true.mp free object member)

namespace Faithful

/-- Nothing that is referred to changes when a map that nothing refers to is written. -/
theorem write (faithful : lending.Faithful) {map : Nat} (free : lending.free map = true)
    (headers : Headers) :
    ∀ object ∈ lending.held, (lending.maps.write map headers).read object.1 = some object.2 := by
  intro object member
  rw [Heap.read_write_of_ne (read_ne_of_free free object member)]
  exact faithful object member

@[inherit_doc write]
theorem alloc (faithful : lending.Faithful) (headers : Headers) :
    ∀ object ∈ lending.held, (lending.maps.alloc headers).read object.1 = some object.2 := by
  intro object member
  have known := faithful object member
  rw [Heap.read_alloc_of_lt (Heap.lt_size_of_read known)]
  exact known

theorem build (faithful : lending.Faithful) (call : SendCall) {map : Nat} {headers : Headers}
    (found : lending.maps.read map = some headers)
    (kept : lending.free map = true ∨ headers = Dict.empty) :
    ∀ object ∈ lending.held ++ [((Publishing.build lending.maps map headers call).2,
        call.assign headers)],
      (Publishing.build lending.maps map headers call).1.read object.1 = some object.2 := by
  rw [List.forall_mem_append]
  by_cases empty : headers.entries = []
  · obtain rfl : headers = Dict.empty := by
      obtain ⟨entries, nodup⟩ := headers
      obtain rfl : entries = [] := empty
      rfl
    rw [Publishing.build, if_pos empty]
    refine ⟨faithful.alloc _, fun object member => ?_⟩
    rw [List.mem_singleton.mp member]
    exact Heap.read_alloc_size
  · have free := kept.resolve_right fun missing => empty (by rw [missing]; rfl)
    rw [Publishing.build, if_neg empty]
    refine ⟨faithful.write free _, fun object member => ?_⟩
    rw [List.mem_singleton.mp member]
    exact Heap.read_write found

theorem take (faithful : lending.Faithful) {action passed : Action} {map : Nat}
    {headers : Headers} (found : lending.maps.read map = some headers)
    (passing : action.passing headers = some passed)
    (kept : lending.keeps (.lend action map) = true) :
    (lending.take passed map headers).Faithful := by
  cases action with
  | send number arguments =>
      obtain rfl := Option.some.inj passing
      refine faithful.build _ found ?_
      simpa [keeps, Action.sendCall?, found] using kept
  | transactionSend id arguments =>
      obtain rfl := Option.some.inj passing
      refine faithful.build _ found ?_
      simpa [keeps, Action.sendCall?, found] using kept
  | subscribe subscription =>
      obtain rfl := Option.some.inj passing
      have refers : ∀ object ∈ lending.held ++ [(map, headers)],
          lending.maps.read object.1 = some object.2 := by
        rw [List.forall_mem_append]
        refine ⟨faithful, fun object member => ?_⟩
        rw [List.mem_singleton.mp member]
        exact found
      exact refers
  | _ => contradiction

theorem step (faithful : lending.Faithful) (kept : lending.keeps action = true)
    (stepped : lending.step settings action = some after) : after.Faithful := by
  cases action with
  | own action =>
      obtain ⟨state, -, rfl⟩ := Option.map_eq_some_iff.mp stepped
      exact faithful
  | create headers =>
      obtain rfl := Option.some.inj stepped
      exact faithful.alloc headers
  | change map headers =>
      obtain ⟨_, -, rfl⟩ := Option.map_eq_some_iff.mp stepped
      exact faithful.write kept headers
  | lend action map =>
      obtain ⟨headers, found, later⟩ := Option.bind_eq_some_iff.mp stepped
      obtain ⟨passed, passing, last⟩ := Option.bind_eq_some_iff.mp later
      obtain ⟨state, -, rfl⟩ := Option.map_eq_some_iff.mp last
      exact faithful.take found passing kept

end Faithful

/-- Every frame is dumped as it was built, in every run in which no map is written to while
something refers to it. -/
theorem faithful_of_reaches
    (reach : (lends settings).Reaches (fun lending action => lending.keeps action = true)
      lending) : lending.Faithful := by
  refine @System.Reaches.invariant _ _ (lends settings) _ Faithful ?_ ?_ lending reach
  · intro object member
    exact absurd member List.not_mem_nil
  · intro before after action _ faithful kept stepped
    exact faithful.step kept stepped

/-! ## Runs -/

/-- A test for steps that keep the maps apart. -/
def test (passes : State → Action → Bool) (lending : Lending) (action : LendingAction) : Bool :=
  lending.keeps action && (lending.passes action).all (passes lending.state)

theorem meets_of_test {passes : State → Action → Bool} {allowed : State → Action → Prop}
    (sound : ∀ state action, passes state action = true → allowed state action)
    (lending : Lending) (action : LendingAction) (tested : lending.test passes action = true) :
    lending.Meets allowed action := by
  obtain ⟨kept, passed⟩ := Bool.and_eq_true_iff.mp tested
  refine ⟨kept, fun taken same => sound _ _ ?_⟩
  rwa [same] at passed

/-- Sends are given a map of the caller. -/
def giving (map : Nat) (action : Action) : LendingAction :=
  if action.sendCall?.isSome then .lend action map else .own action

/-- A map that is not empty. -/
def plainHeaders : Headers := Dict.empty.set "priority" "4"

end Lending

end Stompman
