import Actr.Hyper.Wire.InboundSinks
import Actr.Library.Slots

/-! # Which inbound connection carries the responses -/

namespace Actr.Proof.Wire
open Actr.Protocol Hyper.Wire InboundSinks Library Machine

def up (connection : InboundConnection) : Bool := connection.registered && !connection.removed

def reads (connection : InboundConnection) : Bool := connection.lanes.contains .running

def isDone (connection : InboundConnection) : Bool :=
  connection.lanes.length = laneCount && connection.lanes.all (· = .finished)

structure Routes (s : InboundSinks) : Prop where
  newest : ∀ (peer : ActrId) (index : Nat) (connection : InboundConnection), s.connections[index]? = some connection →
    connection.peer = some peer → reads connection = true →
      (∀ (later : Nat) (other : InboundConnection), s.connections[later]? = some other → other.peer = some peer →
        reads other = true → later ≤ index) → s.inboundSinks.lookup peer = some index
  absent : ∀ peer : ActrId, (∀ (index : Nat) (connection : InboundConnection), s.connections[index]? = some connection →
    connection.peer = some peer → connection.registered = true → isDone connection = true) →
      s.inboundSinks.lookup peer = none
  hook : s.hookCallback = true → ∀ (index : Nat) (connection : InboundConnection),
    s.connections[index]? = some connection → connection.peer.isSome = true →
      connection.disconnects ≤ 1 ∧
      (connection.disconnects = 1 → connection.lanes.length = laneCount ∧ reads connection = false) ∧
      (isDone connection = true → connection.disconnects = 1)

/-- A connection is registered while no other one of its peer is up, and no lane ends before all are spawned. -/
def apart (s : InboundSinks) : Action → Bool
  | .register index =>
    s.connections[index]?.all fun connection =>
      connection.peer.isNone || s.connections.all fun other => !(other.peer = connection.peer && up other)
  | .laneEnds index _ => s.connections[index]?.all (·.lanes.length = laneCount)
  | _ => true

structure Late (connection : InboundConnection) : Prop where
  full : connection.lanes.length = laneCount
  none : connection.lanes.count .running = 0
  decoded : connection.peer.isSome = true

inductive Stage (hook : Bool) (connection : InboundConnection) : Prop
  | early (going : 0 < connection.lanes.count .running ∨ connection.lanes.length < laneCount ∨ connection.peer = none)
      (none : connection.lanes.count .removing = 0) (none' : connection.lanes.count .hooking = 0)
      (removed : connection.removed = false) (disconnects : connection.disconnects = 0)
  | removing (late : Late connection) (one : connection.lanes.count .removing = 1)
      (none : connection.lanes.count .hooking = 0) (removed : connection.removed = false)
      (disconnects : connection.disconnects = 0)
  | hooking (late : Late connection) (none : connection.lanes.count .removing = 0)
      (one : connection.lanes.count .hooking = 1) (removed : connection.removed = true)
      (disconnects : connection.disconnects = 0) (installed : hook = true)
  | finished (late : Late connection) (none : connection.lanes.count .removing = 0)
      (none' : connection.lanes.count .hooking = 0) (removed : connection.removed = true)
      (disconnects : connection.disconnects = hook.toNat)

structure ConnectionOk (hook : Bool) (connection : InboundConnection) : Prop where
  counted : connection.activeLanes = connection.lanes.count .running
  spawned : connection.lanes.length ≤ laneCount
  registered : connection.lanes ≠ [] → connection.registered = true
  stage : Stage hook connection

section Lanes

variable {lanes : List LaneTask} {lane : Nat} {old task place : LaneTask}

theorem count_left (listed : lanes[lane]? = some old) (moves : task ≠ old) :
    (lanes.set lane task).count old + 1 = lanes.count old := by
  have counted := @Slots.count_set _ _ task _ _ listed _ old
  rwa [if_pos rfl, if_neg moves] at counted

theorem count_joined (listed : lanes[lane]? = some old) (moves : old ≠ task) :
    (lanes.set lane task).count task = lanes.count task + 1 := by
  have counted := @Slots.count_set _ _ task _ _ listed _ task
  rwa [if_pos rfl, if_neg moves] at counted

theorem count_other (listed : lanes[lane]? = some old) (before : old ≠ place) (after : task ≠ place) :
    (lanes.set lane task).count place = lanes.count place := by
  have counted := @Slots.count_set _ _ task _ _ listed _ place
  rwa [if_neg before, if_neg after] at counted

theorem count_pos (listed : lanes[lane]? = some place) : 0 < lanes.count place :=
  List.count_pos_iff.mpr (List.mem_of_getElem? listed)

theorem ne_nil_of_listed (listed : lanes[lane]? = some place) : lanes ≠ [] :=
  List.ne_nil_of_mem (List.mem_of_getElem? listed)

end Lanes

section Connection

variable {hook : Bool} {connection : InboundConnection} {lane : Nat} {peer : ActrId}

theorem connectionOk_fresh (peer : Option ActrId) : ConnectionOk hook ⟨peer, false, 0, [], false, 0⟩ :=
  ⟨rfl, Nat.zero_le _, fun filled => absurd rfl filled, .early (.inr (.inl (by simp [laneCount]))) rfl rfl rfl rfl⟩

theorem connectionOk_register (ok : ConnectionOk hook connection) (unregistered : connection.registered = false) :
    ConnectionOk hook { connection with registered := true } ∧ up { connection with registered := true } = true := by
  have empty : connection.lanes = [] := by
    by_contra filled
    cases unregistered.symm.trans (ok.registered filled)
  cases ok.stage with
  | early going removing hooking removed disconnects =>
    refine ⟨⟨ok.counted, ok.spawned, fun _ => rfl, .early going removing hooking removed disconnects⟩, ?_⟩
    simp [up, removed]
  | removing late | hooking late | finished late =>
    have full := late.full
    rw [empty] at full
    cases full

theorem connectionOk_spawn (ok : ConnectionOk hook connection) (registered : connection.registered = true)
    (room : connection.lanes.length < laneCount) : ConnectionOk hook (InboundSinks.spawn connection) := by
  have counted := ok.counted
  have lanes : (InboundSinks.spawn connection).lanes = connection.lanes ++ [.running] := rfl
  cases ok.stage with
  | early going removing hooking removed disconnects =>
    refine ⟨?_, ?_, fun _ => registered, .early (.inl ?_) ?_ ?_ removed disconnects⟩
    · simp [InboundSinks.spawn, counted]
    · rw [lanes, List.length_append]
      exact room
    · simp [lanes]
    · simp [lanes, removing]
    · simp [lanes, hooking]
  | removing late | hooking late | finished late => exact absurd late.full (Nat.ne_of_lt room)

theorem connectionOk_late (late : Late connection) (counted : connection.activeLanes = 0)
    (registered : connection.registered = true) (stage : Stage hook connection) : ConnectionOk hook connection :=
  ⟨counted.trans late.none.symm, Nat.le_of_eq late.full, fun _ => registered, stage⟩

section

variable (ok : ConnectionOk hook connection)
include ok

theorem connectionOk_finish (full : connection.lanes.length = laneCount)
    (running : connection.lanes[lane]? = some .running) : ConnectionOk hook (finishLaneTask connection lane) := by
  have counted := ok.counted
  have registered := ok.registered (ne_nil_of_listed running)
  have positive := count_pos running
  have fewer : (finishLaneTask connection lane).activeLanes = connection.activeLanes - 1 := rfl
  cases ok.stage with
  | removing late | hooking late | finished late =>
    have none := late.none
    omega
  | early _ noRemoving noHooking removed disconnects =>
    by_cases last : connection.activeLanes - 1 = 0 ∧ connection.peer.isSome = true
    · have lanes : (finishLaneTask connection lane).lanes = connection.lanes.set lane .removing := by
        simp [finishLaneTask, setLane, last]
      have gone := @count_left _ _ _ .removing running (by decide)
      have one := @count_joined _ _ _ .removing running (by decide)
      have none := @count_other _ _ _ .removing .hooking running (by decide) (by decide)
      rw [← lanes] at gone one none
      have late : Late (finishLaneTask connection lane) := ⟨by rw [lanes, List.length_set, full], by omega, last.2⟩
      exact connectionOk_late late last.1 registered
        (.removing late (by rw [one, noRemoving]) (by rw [none, noHooking]) removed disconnects)
    · have lanes : (finishLaneTask connection lane).lanes = connection.lanes.set lane .finished := by
        simp [finishLaneTask, setLane, last]
      have gone := @count_left _ _ _ .finished running (by decide)
      have removing := @count_other _ _ _ .finished .removing running (by decide) (by decide)
      have hooking := @count_other _ _ _ .finished .hooking running (by decide) (by decide)
      rw [← lanes] at gone removing hooking
      refine ⟨by omega, ?_, fun _ => registered,
        .early ?_ (removing.trans noRemoving) (hooking.trans noHooking) removed disconnects⟩
      · rw [lanes, List.length_set]
        exact ok.spawned
      · rcases not_and_or.mp last with more | undecoded
        · exact .inl (by omega)
        · exact .inr (.inr (Option.not_isSome_iff_eq_none.mp undecoded))

theorem connectionOk_remove (removing : connection.lanes[lane]? = some .removing) :
    ConnectionOk hook { setLane connection lane (if hook then .hooking else .finished) with removed := true } := by
  have registered := ok.registered (ne_nil_of_listed removing)
  have positive := count_pos removing
  cases ok.stage with
  | early _ none | hooking _ none | finished _ none => omega
  | removing late one zero removed disconnects =>
    have gone (task : LaneTask) (away : task ≠ .removing) : (connection.lanes.set lane task).count .removing = 0 := by
      have left := count_left removing away
      omega
    have still (task : LaneTask) (away : task ≠ .running) :
        Late { setLane connection lane task with removed := true } :=
      ⟨List.length_set.trans late.full, (count_other removing (by decide) away).trans late.none, late.decoded⟩
    cases hook with
    | true =>
      have late' := still .hooking (by decide)
      refine connectionOk_late late' (ok.counted.trans late.none) registered
        (.hooking late' (gone .hooking (by decide)) ?_ rfl disconnects rfl)
      exact (count_joined removing (by decide)).trans (by rw [zero])
    | false =>
      have late' := still .finished (by decide)
      refine connectionOk_late late' (ok.counted.trans late.none) registered
        (.finished late' (gone .finished (by decide)) ?_ rfl disconnects)
      exact (count_other removing (by decide) (by decide)).trans zero

theorem connectionOk_callHook (hooking : connection.lanes[lane]? = some .hooking) :
    ConnectionOk hook (callHook connection lane) := by
  have registered := ok.registered (ne_nil_of_listed hooking)
  have positive := count_pos hooking
  have gone := @count_left _ _ _ .finished hooking (by decide)
  cases ok.stage with
  | early _ _ none | removing _ _ none | finished _ _ none => omega
  | hooking late none one removed disconnects installed =>
    have late' : Late (callHook connection lane) :=
      ⟨List.length_set.trans late.full, (count_other hooking (by decide) (by decide)).trans late.none, late.decoded⟩
    refine connectionOk_late late' (ok.counted.trans late.none) registered
      (.finished late' ((count_other hooking (by decide) (by decide)).trans none) ?_ removed ?_)
    · change (connection.lanes.set lane .finished).count .hooking = 0
      omega
    · rw [installed]
      exact congrArg (· + 1) disconnects

end

end Connection

structure SinksOk (s : InboundSinks) : Prop where
  connection : ∀ (index : Nat) (connection : InboundConnection), s.connections[index]? = some connection →
    ConnectionOk s.hookCallback connection
  sink : ∀ (peer : ActrId) (index : Nat), s.inboundSinks.lookup peer = some index ↔
    ∃ connection, s.connections[index]? = some connection ∧ connection.peer = some peer ∧ up connection = true

section Sinks

variable {s t : InboundSinks} {action : Action} {index lane : Nat} {connection next : InboundConnection} {hook : Bool}

theorem connection_set (ok : SinksOk s) (right : ConnectionOk s.hookCallback next) (other : Nat)
    (found : InboundConnection) (listed : (s.connections.set index next)[other]? = some found) :
    ConnectionOk s.hookCallback found := by
  rcases Slots.of_set listed with ⟨-, rfl⟩ | ⟨-, old⟩
  · exact right
  · exact ok.connection other found old

theorem sinksOk_setConnection (ok : SinksOk s) (found : s.connections[index]? = some connection)
    (right : ConnectionOk s.hookCallback next) (peer : next.peer = connection.peer) (same : up next = up connection) :
    SinksOk (s.setConnection index next) := by
  refine ⟨connection_set ok right, fun wanted other => (ok.sink wanted other).trans ?_⟩
  unfold setConnection
  rw [Slots.exists_set found, peer, same]
  by_cases own : other = index
  · subst own
    simp [found]
  · simp [own]

theorem sinksOk_accept (ok : SinksOk s) (peer : Option ActrId) :
    SinksOk { s with connections := s.connections ++ [⟨peer, false, 0, [], false, 0⟩] } := by
  constructor
  · intro index connection listed
    rcases Slots.of_snoc listed with old | ⟨-, rfl⟩
    · exact ok.connection index connection old
    · exact connectionOk_fresh peer
  · intro wanted index
    refine (ok.sink wanted index).trans ⟨?_, ?_⟩
    · rintro ⟨connection, listed, rest⟩
      exact ⟨connection, Slots.snoc listed, rest⟩
    · rintro ⟨connection, listed, its, isUp⟩
      rcases Slots.of_snoc listed with old | ⟨-, rfl⟩
      · exact ⟨connection, old, its, isUp⟩
      · cases isUp

theorem alone_of_apart {other : Nat} {peer : ActrId} {found' : InboundConnection}
    (alone : apart s (.register index) = true) (found : s.connections[index]? = some connection)
    (decoded : connection.peer = some peer) (listed : s.connections[other]? = some found')
    (its : found'.peer = some peer) : up found' = false := by
  simp only [apart, found, Option.all_some, decoded, Option.isNone_some, Bool.false_or, List.all_eq_true] at alone
  simpa [its] using alone found' (List.mem_of_getElem? listed)

theorem sinksOk_register (ok : SinksOk s) (found : s.connections[index]? = some connection)
    (unregistered : connection.registered = false) (alone : apart s (.register index) = true) :
    SinksOk (s.register index connection) := by
  obtain ⟨right, isUp⟩ := connectionOk_register (ok.connection index connection found) unregistered
  refine ⟨connection_set ok right, fun wanted other => ?_⟩
  unfold InboundSinks.register
  change AList.lookup wanted _ = _ ↔ ∃ x, (s.connections.set index _)[other]? = some x ∧ _
  rw [Slots.exists_set found]
  have down : up connection = false := by simp [up, unregistered]
  cases decoded : connection.peer with
  | none =>
    refine (ok.sink wanted other).trans ?_
    by_cases own : other = index
    · subst own
      simp [found, down]
    · simp [own]
  | some peer =>
    by_cases same : wanted = peer
    · subst same
      rw [AList.lookup_insert]
      constructor
      · rintro ⟨⟩
        exact .inl ⟨rfl, rfl, isUp⟩
      · rintro (⟨rfl, -⟩ | ⟨-, found', listed, its, otherUp⟩)
        · rfl
        · cases (alone_of_apart alone found decoded listed its).symm.trans otherUp
    · rw [AList.lookup_insert_ne same]
      refine (ok.sink wanted other).trans ?_
      by_cases own : other = index
      · subst own
        simp [found, down, Ne.symm same]
      · simp [own]

theorem up_of_removing (ok : ConnectionOk s.hookCallback connection)
    (removing : connection.lanes[lane]? = some .removing) : up connection = true := by
  have positive := count_pos removing
  cases ok.stage with
  | early _ none | hooking _ none | finished _ none => omega
  | removing _ _ _ removed => simp [up, removed, ok.registered (ne_nil_of_listed removing)]

theorem sinksOk_remove {peer : ActrId} (ok : SinksOk s) (found : s.connections[index]? = some connection)
    (removing : connection.lanes[lane]? = some .removing) (decoded : connection.peer = some peer) :
    SinksOk (s.remove index lane connection peer) := by
  have before := ok.connection index connection found
  have own := (ok.sink peer index).mpr ⟨connection, found, decoded, up_of_removing before removing⟩
  refine ⟨connection_set ok (connectionOk_remove before removing), fun wanted other => ?_⟩
  change AList.lookup wanted (s.inboundSinks.erase peer) = _ ↔ ∃ x, (s.connections.set index _)[other]? = some x ∧ _
  rw [Slots.exists_set found]
  have down : up { setLane connection lane (if s.hookCallback then .hooking else .finished) with removed := true } =
      false := by simp [up]
  by_cases same : wanted = peer
  · subst same
    rw [AList.lookup_erase]
    constructor
    · intro none
      cases none
    · rintro (⟨-, -, isUp⟩ | ⟨different, entry⟩)
      · cases down.symm.trans isUp
      · cases own.symm.trans ((ok.sink wanted other).mpr entry)
        exact absurd rfl different
  · rw [AList.lookup_erase_ne same]
    refine (ok.sink wanted other).trans ?_
    by_cases here : other = index
    · subst here
      simp [found, decoded, setLane, Ne.symm same]
    · simp [here]

theorem sinksOk_step (ok : SinksOk s) (alone : apart s action = true) (taken : step s action = some t) :
    SinksOk t := by
  cases action with
  | accept peer =>
    obtain ⟨-, rfl⟩ := of_guard taken
    exact sinksOk_accept ok peer
  | register =>
    obtain ⟨connection, found, moves⟩ := Option.bind_eq_some_iff.mp taken
    obtain ⟨unregistered, rfl⟩ := of_unless moves
    exact sinksOk_register ok found (by simpa using unregistered) alone
  | spawn index =>
    obtain ⟨connection, found, moves⟩ := Option.bind_eq_some_iff.mp taken
    obtain ⟨⟨registered, room⟩, rfl⟩ := of_guard moves
    have before := ok.connection index connection found
    exact sinksOk_setConnection ok found (connectionOk_spawn before registered room) rfl rfl
  | laneEnds index =>
    obtain ⟨connection, found, moves⟩ := Option.bind_eq_some_iff.mp taken
    obtain ⟨running, rfl⟩ := of_guard moves
    have before := ok.connection index connection found
    have full : connection.lanes.length = laneCount := by simpa [apart, found] using alone
    exact sinksOk_setConnection ok found (connectionOk_finish before full running) rfl rfl
  | removeSink =>
    obtain ⟨connection, found, moves⟩ := Option.bind_eq_some_iff.mp taken
    obtain ⟨removing, moves⟩ := Option.ite_none_right_eq_some.mp moves
    obtain ⟨peer, decoded, rfl⟩ := Option.map_eq_some_iff.mp moves
    exact sinksOk_remove ok found removing decoded
  | hook index =>
    obtain ⟨connection, found, moves⟩ := Option.bind_eq_some_iff.mp taken
    obtain ⟨hooking, rfl⟩ := of_guard moves
    have before := ok.connection index connection found
    exact sinksOk_setConnection ok found (connectionOk_callHook before hooking) rfl rfl

theorem sinksOk_initial (hookCallback : Bool) : SinksOk (initial hookCallback) := by
  constructor
  · intro index connection listed
    cases listed
  · intro peer index
    constructor
    · intro found
      cases found
    · rintro ⟨connection, listed, -⟩
      cases listed

theorem count_of_isDone (isDone : isDone connection = true) :
    connection.lanes.length = laneCount ∧ ∀ place, place ≠ .finished → connection.lanes.count place = 0 := by
  simp only [Wire.isDone, Bool.and_eq_true, decide_eq_true_eq, List.all_eq_true] at isDone
  refine ⟨isDone.1, fun place other => List.count_eq_zero.mpr fun member => ?_⟩
  exact other (isDone.2 place member)

theorem finished_of_isDone (ok : ConnectionOk hook connection) (decoded : connection.peer.isSome = true)
    (isDone : isDone connection = true) : connection.removed = true ∧ connection.disconnects = hook.toNat := by
  obtain ⟨full, none⟩ := count_of_isDone isDone
  have running := none .running (by decide)
  have removing := none .removing (by decide)
  have hooking := none .hooking (by decide)
  cases ok.stage with
  | early going =>
    obtain more | room | undecoded := going
    · omega
    · omega
    · rw [undecoded] at decoded
      cases decoded
  | removing _ one | hooking _ _ one => omega
  | finished _ _ _ removed disconnects => exact ⟨removed, disconnects⟩

theorem count_pos_of_reads (reading : reads connection = true) : 0 < connection.lanes.count .running := by
  simpa [reads, List.count_pos_iff] using reading

theorem disconnects_le (ok : ConnectionOk hook connection) : connection.disconnects ≤ 1 := by
  cases ok.stage with
  | early _ _ _ _ none | removing _ _ _ _ none | hooking _ _ _ _ none => omega
  | finished _ _ _ _ disconnects =>
    rw [disconnects]
    exact Bool.toNat_le hook

theorem disconnected_late (ok : ConnectionOk hook connection) (disconnected : connection.disconnects = 1) :
    connection.lanes.length = laneCount ∧ reads connection = false := by
  cases ok.stage with
  | early _ _ _ _ none | removing _ _ _ _ none | hooking _ _ _ _ none => omega
  | finished late =>
    refine ⟨late.full, Bool.eq_false_iff.mpr fun reading => ?_⟩
    exact absurd late.none (Nat.ne_of_gt (count_pos_of_reads reading))

theorem routes_of_sinksOk (ok : SinksOk s) : Routes s := by
  constructor
  case newest =>
    intro peer index connection found decoded reading _
    have right := ok.connection index connection found
    have running := count_pos_of_reads reading
    have filled : connection.lanes ≠ [] := List.ne_nil_of_mem (List.count_pos_iff.mp running)
    refine (ok.sink peer index).mpr ⟨connection, found, decoded, ?_⟩
    cases right.stage with
    | early _ _ _ removed => simp [up, right.registered filled, removed]
    | removing late | hooking late | finished late => exact absurd late.none (Nat.ne_of_gt running)
  case absent =>
    intro peer done
    cases entry : s.inboundSinks.lookup peer with
    | none => rfl
    | some index =>
      obtain ⟨connection, found, decoded, isUp⟩ := (ok.sink peer index).mp entry
      simp only [up, Bool.and_eq_true, Bool.not_eq_true'] at isUp
      have finished := finished_of_isDone (ok.connection index connection found) (by rw [decoded]; rfl)
        (done index connection found decoded isUp.1)
      cases isUp.2.symm.trans finished.1
  case hook =>
    intro installed index connection found decoded
    have right := ok.connection index connection found
    rw [installed] at right
    exact ⟨disconnects_le right, disconnected_late right, fun done => (finished_of_isDone right decoded done).2⟩

end Sinks

theorem newest_inbound_connection_routes (hookCallback : Bool) (actions : List Action)
    (alone : Along step (fun s action _ => apart s action = true) (initial hookCallback) actions) :
    Along step (fun _ _ t => Routes t) (initial hookCallback) actions := by
  refine along_of_guarded (sinksOk_initial hookCallback) ?_ alone
  intro s action t ok alone taken
  have after := sinksOk_step ok alone taken
  exact ⟨routes_of_sinksOk after, after⟩

def alice : ActrId := ⟨⟨1⟩, 7, ⟨"acme", "docs", "1.0.0"⟩⟩

def connects (index : Nat) : List Action :=
  [.accept (some alice), .register index, .spawn index, .spawn index, .spawn index, .spawn index]

def disconnectsAll (index : Nat) : List Action :=
  [.laneEnds index 0, .laneEnds index 1, .laneEnds index 2, .laneEnds index 3, .removeSink index 3, .hook index 3]

theorem newest_inbound_connection_routes_of_two : Along step (fun s action _ => apart s action = true) (initial true)
      (connects 0 ++ disconnectsAll 0 ++ connects 1) ∧
    Along step (fun _ _ t => Routes t) (initial true) (connects 0 ++ disconnectsAll 0 ++ connects 1) ∧
    ∃ s, exec step (initial true) (connects 0 ++ disconnectsAll 0 ++ connects 1) = some s ∧
      s.inboundSinks.lookup alice = some 1 ∧ s.connections.map InboundConnection.disconnects = [1, 0] := by
  have alone : Along step (fun s action _ => apart s action = true) (initial true)
      (connects 0 ++ disconnectsAll 0 ++ connects 1) := by decide +kernel
  exact ⟨alone, newest_inbound_connection_routes true _ alone, exec_of_any (by decide +kernel)⟩

theorem old_connection_takes_newest_sink :
    (∃ s, exec step (initial true) (connects 0 ++ connects 1 ++ disconnectsAll 0) = some s ∧
      s.inboundSinks.lookup alice = none ∧ s.connections.map reads = [false, true]) ∧
    (∃ s, exec step (initial true) (connects 0 ++ connects 1 ++ disconnectsAll 1) = some s ∧
      s.inboundSinks.lookup alice = none ∧ s.connections.map reads = [true, false]) ∧
    ∃ s, exec step (initial true) [.accept (some alice), .register 0, .spawn 0, .laneEnds 0 0, .removeSink 0 0,
        .hook 0 0, .spawn 0, .laneEnds 0 1, .removeSink 0 1, .hook 0 1, .spawn 0] = some s ∧
      s.inboundSinks.lookup alice = none ∧ s.connections.map reads = [true] ∧
      s.connections.map InboundConnection.disconnects = [2] :=
  ⟨exec_of_any (by decide +kernel), exec_of_any (by decide +kernel), exec_of_any (by decide +kernel)⟩

end Actr.Proof.Wire
