import Actr.Actrix.Signaling.Connections

/-! # Consistency of the connection tables -/

namespace Actr.Proof.Signaling
open Actrix.Signaling Connections Actr.Protocol Library.Machine Library.Maps

variable {client : ClientConnection} {action : Action} {next connection : Connection} {replacement : Option String}

def Connected (s : Connections) (clientId : String) (actorId : ActrId) : Prop :=
  ∃ client, s.clients.lookup clientId = some client ∧ client.actorId = some actorId

structure Known (s : Connections) : Prop where
  accepted : ∀ clientId, s.connections.lookup clientId = none → s.clients.lookup clientId = none
  fresh : ∀ clientId actorId webrtcRole, s.holder = some (.registering clientId actorId webrtcRole) →
    s.connections.lookup clientId = none
  standing : ∀ clientId actorId replacement, s.holder = some (.cleaning clientId actorId (some replacement)) →
    Connected s replacement actorId

structure Consistent (s : Connections) : Prop where
  unique : ∀ actorId first second, Connected s first actorId → Connected s second actorId → first = second
  indexed : ∀ actorId clientId, s.actorIdIndex.lookup actorId = some clientId ↔ Connected s clientId actorId
  recent : ∀ actorId clientId, s.actorIdIndex.lookup actorId = some clientId → s.latest.lookup actorId = some clientId

def holderActor : Holder → ActrId
  | .registering _ actorId _ | .cleaning _ actorId _ => actorId

/-- The tables agree on every actor except the one the holder of the lock works on, which has no client then. -/
structure Tables (s : Connections) : Prop extends Known s where
  indexed : ∀ actorId, s.holder.map holderActor ≠ some actorId →
    ∀ clientId, s.actorIdIndex.lookup actorId = some clientId ↔ Connected s clientId actorId
  recent : ∀ actorId clientId, s.actorIdIndex.lookup actorId = some clientId → s.latest.lookup actorId = some clientId
  absent : ∀ holder, s.holder = some holder → ∀ clientId, ¬ Connected s clientId (holderActor holder)
  stale : ∀ clientId actorId replacement, s.holder = some (.cleaning clientId actorId replacement) →
    s.actorIdIndex.lookup actorId = some clientId ∧ replacement = none

def mover : Action → Option String
  | .spawn clientId | .unregister clientId | .stopReceiving clientId | .cleanup clientId
  | .receiveTaskEnds clientId => some clientId
  | _ => none

inductive Effect (s : Connections) : Action → Connections → Prop
  | claim {clientId : String} {actorId : ActrId} {webrtcRole : Option String} (free : s.holder = none)
      (unknown : s.connections.lookup clientId = none) :
      Effect s (.accept clientId (some actorId) webrtcRole) { s with
        clients := (removeStaleActorClients s.clients actorId).2
        holder := some (.registering clientId actorId webrtcRole) }
  | connect {clientId : String} {webrtcRole : Option String} (free : s.holder = none)
      (unknown : s.connections.lookup clientId = none) :
      Effect s (.accept clientId none webrtcRole) (s.insertClient clientId none webrtcRole)
  | register {clientId : String} {actorId : ActrId} {webrtcRole : Option String}
      (held : s.holder = some (.registering clientId actorId webrtcRole)) :
      Effect s .register ({ s with
        actorIdIndex := s.actorIdIndex.insert actorId clientId
        holder := none
        latest := s.latest.insert actorId clientId }.insertClient clientId (some actorId) webrtcRole)
  | move {action : Action} {clientId : String} {connection : Connection} (moving : mover action = some clientId)
      (known : s.connections.lookup clientId ≠ none) : Effect s action (s.setConnection clientId connection)
  | forget {clientId : String} {client : ClientConnection} {next : Connection} (free : s.holder = none)
      (known : s.connections.lookup clientId ≠ none) (found : s.clients.lookup clientId = some client)
      (actorless : client.actorId = none) :
      Effect s (.cleanup clientId) ({ s with clients := s.clients.erase clientId }.setConnection clientId next)
  | clean {clientId : String} {client : ClientConnection} {actorId : ActrId} (free : s.holder = none)
      (found : s.clients.lookup clientId = some client) (own : client.actorId = some actorId) :
      Effect s (.cleanup clientId) { s with
        clients := s.clients.erase clientId
        holder := some (.cleaning clientId actorId
          (Server.replacementClientId (s.clients.erase clientId) clientId actorId)) }
  | release {clientId : String} {actorId : ActrId} {replacement : Option String} {next : Connection}
      (held : s.holder = some (.cleaning clientId actorId replacement))
      (known : s.connections.lookup clientId ≠ none) :
      Effect s .releaseIndex ({ s with
        actorIdIndex := Server.releaseIndex s.actorIdIndex clientId actorId replacement
        holder := none }.setConnection clientId next)
  | abort {clientId : String} (known : s.connections.lookup clientId ≠ none) :
      Effect s (.sendTaskEnds clientId)
        ({ s with holder := abortReceive s.holder clientId }.setConnection clientId .closing)

section Effects

variable {s t : Connections} {action : Action} {clientId : String}

theorem known_of_cleanedUp (going : (s.connections.lookup clientId).bind cleanedUp = some next) :
    s.connections.lookup clientId ≠ none := by
  intro unknown
  rw [unknown] at going
  cases going

theorem effect_accept {urlIdentity : Option ActrId} {webrtcRole : Option String}
    (taken : s.accept clientId urlIdentity webrtcRole = some t) :
    Effect s (.accept clientId urlIdentity webrtcRole) t := by
  unfold Connections.accept at taken
  split at taken
  · next enabled =>
    cases urlIdentity with
    | none =>
      cases taken
      exact .connect enabled.1 enabled.2
    | some =>
      cases taken
      exact .claim enabled.1 enabled.2
  · cases taken

theorem effect_register (taken : s.register = some t) : Effect s .register t := by
  unfold Connections.register at taken
  split at taken
  · next held =>
    cases taken
    exact .register held
  · cases taken

theorem effect_move {before after : Connection} (moving : mover action = some clientId)
    (taken : s.move clientId before after = some t) : Effect s action t := by
  obtain ⟨listed, rfl⟩ := of_guard taken
  exact .move moving (by simp [listed])

theorem effect_cleanup (taken : s.cleanup clientId = some t) : Effect s (.cleanup clientId) t := by
  unfold Connections.cleanup at taken
  split at taken
  · cases taken
  next held =>
  have free := not_not.mp held
  split at taken
  · cases taken
  next next going =>
  have known := known_of_cleanedUp going
  split at taken
  · cases taken
    exact .move rfl known
  next client found =>
  split at taken
  · next actorless =>
    cases taken
    exact .forget free known found actorless
  · next actorId own =>
    cases taken
    exact .clean free found own

theorem effect_releaseIndex (taken : s.releaseIndex = some t) : Effect s .releaseIndex t := by
  unfold Connections.releaseIndex at taken
  split at taken
  · next held =>
    split at taken
    · next going =>
      cases taken
      exact .release held (known_of_cleanedUp going)
    · cases taken
  · cases taken

theorem effect_sendTaskEnds (taken : s.sendTaskEnds clientId = some t) : Effect s (.sendTaskEnds clientId) t := by
  unfold Connections.sendTaskEnds at taken
  split at taken
  · next running =>
    cases taken
    exact .abort (by simp [running])
  · cases taken

theorem effect_step (taken : step s action = some t) : Effect s action t := by
  cases action with
  | accept => exact effect_accept taken
  | register => exact effect_register taken
  | spawn | unregister | stopReceiving | receiveTaskEnds => exact effect_move rfl taken
  | cleanup => exact effect_cleanup taken
  | releaseIndex => exact effect_releaseIndex taken
  | sendTaskEnds => exact effect_sendTaskEnds taken

end Effects

variable {s t : Connections} {clientId : String} {actorId : ActrId}

theorem Tables.consistent (tables : Tables s) (free : s.holder = none) : Consistent s := by
  have indexed (actorId : ActrId) (clientId : String) :
      s.actorIdIndex.lookup actorId = some clientId ↔ Connected s clientId actorId :=
    tables.indexed actorId (by simp [free]) clientId
  refine ⟨?_, indexed, tables.recent⟩
  intro actorId first second former latter
  have listed := (indexed actorId first).mpr former
  rw [(indexed actorId second).mpr latter] at listed
  exact (Option.some.inj listed).symm

theorem lookup_removeStale (clients : Clients) (actorId : ActrId) (clientId : String) :
    (removeStaleActorClients clients actorId).2.lookup clientId =
      (clients.lookup clientId).filter fun client => client.actorId ≠ some actorId := by
  simp only [removeStaleActorClients, lookup_foldl_erase]
  have stale : clientId ∈ (clients.entries.filter fun entry => entry.2.actorId = some actorId).map Sigma.fst ↔
      ∃ client, clients.lookup clientId = some client ∧ client.actorId = some actorId := by
    simp only [List.mem_map, List.mem_filter, decide_eq_true_eq]
    constructor
    · rintro ⟨⟨listedId, client⟩, ⟨listed, own⟩, rfl⟩
      exact ⟨client, AList.mem_lookup_iff.mpr listed, own⟩
    · rintro ⟨client, found, own⟩
      exact ⟨⟨clientId, client⟩, ⟨AList.mem_lookup_iff.mp found, own⟩, rfl⟩
  simp only [stale]
  cases found : clients.lookup clientId with
  | none => simp
  | some client => by_cases own : client.actorId = some actorId <;> simp [own, Option.filter]

section Connected

variable {other : String} {wanted : ActrId}

theorem connected_erase (clients : t.clients = s.clients.erase clientId) :
    Connected t other wanted ↔ other ≠ clientId ∧ Connected s other wanted := by
  unfold Connected
  rw [clients]
  by_cases same : other = clientId
  · subst same
    simp
  · simp [same, AList.lookup_erase_ne same]

theorem connected_insert (clients : t.clients = s.clients.insert clientId client)
    (fresh : s.clients.lookup clientId = none) :
    Connected t other wanted ↔ other = clientId ∧ client.actorId = some wanted ∨ Connected s other wanted := by
  unfold Connected
  rw [clients]
  by_cases same : other = clientId
  · subst same
    simp [fresh]
  · simp [same, AList.lookup_insert_ne same]

theorem connected_removeStale (clients : t.clients = (removeStaleActorClients s.clients actorId).2) :
    Connected t other wanted ↔ wanted ≠ actorId ∧ Connected s other wanted := by
  unfold Connected
  rw [clients, lookup_removeStale]
  cases s.clients.lookup other with
  | none => simp
  | some client =>
    simp only [Option.filter_eq_some_iff, Option.some.injEq]
    constructor
    · rintro ⟨_, ⟨rfl, kept⟩, own⟩
      refine ⟨?_, client, rfl, own⟩
      rintro rfl
      simp [own] at kept
    · rintro ⟨different, _, rfl, own⟩
      refine ⟨client, ⟨rfl, ?_⟩, own⟩
      simpa [own] using different

theorem replacement_none {clients : Clients} (absent : ∀ other client, clients.lookup other = some client →
      client.actorId ≠ some actorId) : Server.replacementClientId clients clientId actorId = none := by
  unfold Server.replacementClientId
  rw [Option.map_eq_none_iff, List.find?_eq_none]
  intro entry listed
  have foreign := absent entry.1 entry.2 (AList.mem_lookup_iff.mpr listed)
  simp [foreign]

end Connected

theorem lookup_setConnection {other : String} (known : s.connections.lookup clientId ≠ none) :
    (s.setConnection clientId connection).connections.lookup other = none ↔ s.connections.lookup other = none := by
  unfold setConnection
  by_cases same : other = clientId
  · subst same
    simp [known]
  · simp only [AList.lookup_insert_ne same]

theorem known_init : Known init where
  accepted _ _ := rfl
  fresh _ _ _ held := by cases held
  standing _ _ _ held := by cases held

theorem Known.setConnection (known : Known s)
    (present : s.connections.lookup clientId ≠ none) : Known (s.setConnection clientId connection) where
  accepted other missing := known.accepted other ((lookup_setConnection present).mp missing)
  fresh other actorId webrtcRole held :=
    (lookup_setConnection present).mpr (known.fresh other actorId webrtcRole held)
  standing := known.standing

theorem Known.freed (known : Known s) {actorIdIndex : ActorIdIndex} {latest : AList fun _ : ActrId => String} :
    Known { s with actorIdIndex, holder := none, latest } where
  accepted := known.accepted
  fresh _ _ _ held := by cases held
  standing _ _ _ held := by cases held

theorem Known.insertClient (known : Known s) (free : s.holder = none) {identity : Option ActrId}
    {webrtcRole : Option String} : Known (s.insertClient clientId identity webrtcRole) := by
  constructor
  case accepted =>
    intro other missing
    have different : other ≠ clientId := by
      rintro rfl
      simp [Connections.insertClient, Connections.setConnection] at missing
    simp only [Connections.insertClient, Connections.setConnection, AList.lookup_insert_ne different] at missing ⊢
    exact known.accepted other missing
  case fresh =>
    intro other actorId role held
    cases free.symm.trans held
  case standing =>
    intro other actorId replacement held
    cases free.symm.trans held

theorem Known.erase (known : Known s) {holder : Option Holder}
    (standing : ∀ other actorId replacement, holder = some (.cleaning other actorId (some replacement)) →
      Connected { s with clients := s.clients.erase clientId, holder } replacement actorId)
    (cleaning : ∀ other actorId webrtcRole, holder ≠ some (.registering other actorId webrtcRole)) :
    Known { s with clients := s.clients.erase clientId, holder } where
  accepted other missing := lookup_erase_none (known.accepted other missing)
  fresh other actorId webrtcRole held := absurd held (cleaning other actorId webrtcRole)
  standing := standing

theorem connected_of_replacement {clients : Clients} {replacement : String}
    (found : Server.replacementClientId clients clientId actorId = some replacement) :
    ∃ client, clients.lookup replacement = some client ∧ client.actorId = some actorId := by
  obtain ⟨entry, chosen, rfl⟩ := Option.map_eq_some_iff.mp found
  have own := List.find?_some chosen
  simp only [decide_eq_true_eq] at own
  exact ⟨entry.2, AList.mem_lookup_iff.mpr (List.mem_of_find?_eq_some chosen), own.2⟩

theorem Known.claim (known : Known s) (unknown : s.connections.lookup clientId = none) (webrtcRole : Option String) :
    Known { s with
      clients := (removeStaleActorClients s.clients actorId).2
      holder := some (.registering clientId actorId webrtcRole) } := by
  constructor
  case accepted =>
    intro other missing
    rw [lookup_removeStale, known.accepted other missing]
    rfl
  case fresh =>
    intro other wanted role held
    cases held
    exact unknown
  case standing =>
    intro other wanted replacement held
    cases held

theorem Known.forget (known : Known s) (free : s.holder = none) :
    Known { s with clients := s.clients.erase clientId } := by
  refine known.erase ?_ ?_
  · intro other actorId replacement held
    cases free.symm.trans held
  · intro other actorId webrtcRole held
    cases free.symm.trans held

theorem Known.clean (known : Known s) : Known { s with
    clients := s.clients.erase clientId
    holder := some (.cleaning clientId actorId
      (Server.replacementClientId (s.clients.erase clientId) clientId actorId)) } := by
  refine known.erase ?_ ?_
  · intro other wanted replacement held
    obtain ⟨rfl, rfl, chosen⟩ := Holder.cleaning.inj (Option.some.inj held)
    exact connected_of_replacement chosen
  · intro other wanted webrtcRole held
    cases held

theorem held_of_abortReceive {held : Option Holder} {holder : Holder}
    (after : abortReceive held clientId = some holder) : held = some holder := by
  unfold abortReceive at after
  split at after
  · split at after
    · cases after
    · exact after
  · exact after

theorem Known.abort (known : Known s) : Known { s with holder := abortReceive s.holder clientId } where
  accepted := known.accepted
  fresh other actorId webrtcRole held := known.fresh other actorId webrtcRole (held_of_abortReceive held)
  standing other actorId replacement held := known.standing other actorId replacement (held_of_abortReceive held)

theorem step_known (known : Known s) (taken : s.step action = some t) : Known t := by
  cases effect_step taken with
  | claim free unknown => exact known.claim unknown _
  | connect free => exact known.insertClient free
  | register => exact known.freed.insertClient rfl
  | move moving present => exact known.setConnection present
  | forget free present => exact (known.forget free).setConnection present
  | clean => exact known.clean
  | release held present => exact known.freed.setConnection present
  | abort present => exact known.abort.setConnection present

theorem tables_init : Tables init where
  __ := known_init
  indexed actorId _ clientId := by simp [init, Connected]
  recent actorId clientId listed := by simp [init] at listed
  absent holder held := by cases held
  stale clientId actorId replacement held := by cases held

theorem Tables.setConnection (tables : Tables s) (known : s.connections.lookup clientId ≠ none) :
    Tables (s.setConnection clientId connection) where
  __ := tables.toKnown.setConnection known
  __ := tables

theorem tables_of_free (known : Known t) (free : t.holder = none)
    (indexed : ∀ actorId clientId, t.actorIdIndex.lookup actorId = some clientId ↔ Connected t clientId actorId)
    (recent : ∀ actorId clientId, t.actorIdIndex.lookup actorId = some clientId →
      t.latest.lookup actorId = some clientId) : Tables t where
  __ := known
  indexed actorId _ := indexed actorId
  recent := recent
  absent holder held := absurd held (by simp [free])
  stale clientId actorId replacement held := absurd held (by simp [free])

section

variable (tables : Tables s) (free : s.holder = none) (unknown : s.connections.lookup clientId = none)
  (webrtcRole : Option String)
include tables free unknown webrtcRole

theorem Tables.insertClient : Tables (s.insertClient clientId none webrtcRole) := by
  refine tables_of_free (tables.toKnown.insertClient free) free ?_ tables.recent
  intro wanted other
  rw [connected_insert rfl (tables.accepted clientId unknown)]
  simp only [reduceCtorEq, and_false, false_or]
  exact (tables.consistent free).indexed wanted other

theorem Tables.claim : Tables { s with
      clients := (removeStaleActorClients s.clients actorId).2
      holder := some (.registering clientId actorId webrtcRole) } := by
  refine { tables.toKnown.claim unknown webrtcRole with
    indexed := ?indexed, recent := tables.recent, absent := ?absent, stale := nofun }
  case indexed =>
    intro wanted different other
    rw [connected_removeStale rfl]
    have foreign : wanted ≠ actorId := by
      rintro rfl
      exact different rfl
    rw [and_iff_right foreign]
    exact tables.indexed wanted (by simp [free]) other
  case absent =>
    intro holder held other
    cases held
    rw [connected_removeStale rfl]
    exact fun connected => connected.1 rfl

end

theorem Tables.register (tables : Tables s) {webrtcRole : Option String}
    (held : s.holder = some (.registering clientId actorId webrtcRole)) :
    Tables ({ s with
      actorIdIndex := s.actorIdIndex.insert actorId clientId
      holder := none
      latest := s.latest.insert actorId clientId }.insertClient clientId (some actorId) webrtcRole) := by
  have unknown := tables.fresh clientId actorId webrtcRole held
  have absent := tables.absent _ held
  refine tables_of_free (tables.toKnown.freed.insertClient rfl) rfl ?_ ?_
  · intro wanted other
    rw [connected_insert rfl (tables.accepted clientId unknown)]
    simp only [Connections.insertClient, Connections.setConnection]
    by_cases same : wanted = actorId
    · subst same
      rw [AList.lookup_insert]
      constructor
      · intro listed
        exact .inl ⟨(Option.some.inj listed).symm, rfl⟩
      · rintro (⟨rfl, _⟩ | connected)
        · rfl
        · exact absurd connected (absent other)
    · rw [AList.lookup_insert_ne same, tables.indexed wanted (by simp [held, holderActor, Ne.symm same]) other]
      simp [Ne.symm same]
  · intro wanted other listed
    simp only [Connections.insertClient, Connections.setConnection] at listed ⊢
    by_cases same : wanted = actorId
    · subst same
      rwa [AList.lookup_insert] at listed ⊢
    · rw [AList.lookup_insert_ne same] at listed ⊢
      exact tables.recent wanted other listed

theorem connected_erase_foreign {wanted : ActrId} (clients : t.clients = s.clients.erase clientId)
    (found : s.clients.lookup clientId = some client) (foreign : client.actorId ≠ some wanted) (other : String) :
    Connected t other wanted ↔ Connected s other wanted := by
  rw [connected_erase clients, and_iff_right_of_imp]
  rintro ⟨connection, listed, own⟩ rfl
  rw [found] at listed
  cases listed
  exact foreign own

theorem Tables.eraseActorless (tables : Tables s) (free : s.holder = none)
    (found : s.clients.lookup clientId = some client) (actorless : client.actorId = none) :
    Tables { s with clients := s.clients.erase clientId } := by
  refine tables_of_free (tables.toKnown.forget free) free ?_ tables.recent
  intro wanted other
  rw [connected_erase_foreign rfl found (by simp [actorless]) other]
  exact (tables.consistent free).indexed wanted other

theorem Tables.eraseOf (tables : Tables s) (free : s.holder = none) (found : s.clients.lookup clientId = some client)
    (own : client.actorId = some actorId) :
    Tables { s with
      clients := s.clients.erase clientId
      holder := some (.cleaning clientId actorId
        (Server.replacementClientId (s.clients.erase clientId) clientId actorId)) } := by
  have consistent := tables.consistent free
  have connected : Connected s clientId actorId := ⟨client, found, own⟩
  have gone (other : String) (remaining : ClientConnection)
      (listed : (s.clients.erase clientId).lookup other = some remaining) : remaining.actorId ≠ some actorId := by
    intro same
    obtain ⟨different, listed⟩ := of_lookup_erase listed
    exact different (consistent.unique actorId other clientId ⟨remaining, listed, same⟩ connected)
  exact { tables.toKnown.clean with
    indexed := by
      intro wanted different other
      have foreign : client.actorId ≠ some wanted := own ▸ different
      rw [connected_erase_foreign rfl found foreign other]
      exact consistent.indexed wanted other
    recent := tables.recent
    absent := by
      rintro holder held other ⟨remaining, listed, same⟩
      cases held
      exact gone other remaining listed same
    stale := by
      intro other wanted replacement held
      cases held
      exact ⟨(consistent.indexed _ _).mpr connected, replacement_none gone⟩ }

theorem Tables.release (tables : Tables s)
    (held : s.holder = some (.cleaning clientId actorId replacement)) (known : s.connections.lookup clientId ≠ none) :
    Tables ({ s with
      actorIdIndex := Server.releaseIndex s.actorIdIndex clientId actorId replacement
      holder := none }.setConnection clientId next) := by
  have absent := tables.absent _ held
  obtain ⟨mapped, rfl⟩ := tables.stale clientId actorId replacement held
  have erased : Server.releaseIndex s.actorIdIndex clientId actorId none = s.actorIdIndex.erase actorId := by
    simp [Server.releaseIndex, mapped]
  rw [erased]
  have released : Tables { s with actorIdIndex := s.actorIdIndex.erase actorId, holder := none } := by
    refine tables_of_free tables.toKnown.freed rfl ?_ ?_
    · intro wanted other
      by_cases same : wanted = actorId
      · subst same
        rw [AList.lookup_erase]
        exact iff_of_false nofun (absent other)
      · rw [AList.lookup_erase_ne same]
        exact tables.indexed wanted (by simp [held, holderActor, Ne.symm same]) other
    · intro wanted other listed
      exact tables.recent wanted other (of_lookup_erase listed).2
  exact released.setConnection known

/-- A receive task that is aborted while it waits for the index with its client already removed. -/
def AbortsCleanup (s : Connections) (action : Action) : Prop :=
  ∃ clientId actorId replacement, action = .sendTaskEnds clientId ∧
    s.holder = some (.cleaning clientId actorId replacement)

theorem Tables.abort (tables : Tables s) (guarded : ¬ AbortsCleanup s (.sendTaskEnds clientId))
    (known : s.connections.lookup clientId ≠ none) :
    Tables ({ s with holder := abortReceive s.holder clientId }.setConnection clientId .closing) := by
  have kept : abortReceive s.holder clientId = s.holder := by
    unfold abortReceive
    split
    · next cleaned actorId replacement held =>
      have different : cleaned ≠ clientId := by
        rintro rfl
        exact guarded ⟨cleaned, actorId, replacement, rfl, held⟩
      rw [if_neg different, held]
    · rfl
  rw [kept]
  exact tables.setConnection known

theorem step_tables (tables : Tables s) (guarded : ¬ AbortsCleanup s action) (taken : step s action = some t) :
    Tables t := by
  cases effect_step taken with
  | claim free unknown => exact tables.claim free unknown _
  | connect free unknown => exact tables.insertClient free unknown _
  | register held => exact tables.register held
  | move moving known => exact tables.setConnection known
  | forget free known found actorless =>
    have erased := tables.eraseActorless free found actorless
    exact erased.setConnection known
  | clean free found own => exact tables.eraseOf free found own
  | release held known => exact tables.release held known
  | abort known => exact tables.abort guarded known

theorem inconsistent_of_aborts (tables : Tables s) (aborts : AbortsCleanup s action)
    (taken : step s action = some t) : t.holder = none ∧ ¬ Consistent t := by
  obtain ⟨clientId, actorId, replacement, rfl, held⟩ := aborts
  cases effect_step taken with
  | move moving => cases moving
  | abort =>
    refine ⟨by simp [Connections.setConnection, held, abortReceive], fun consistent => ?_⟩
    have listed := (tables.stale clientId actorId replacement held).1
    exact tables.absent _ held clientId ((consistent.indexed actorId clientId).mp listed)

def cleaned (s : Connections) : Action → Option String
  | .cleanup clientId => some clientId
  | .releaseIndex =>
    match s.holder with
    | some (.cleaning clientId _ _) => some clientId
    | _ => none
  | _ => none

/-- A cleanup keeps the entries of every other client in both tables. -/
def SparesOthers (s : Connections) (action : Action) (t : Connections) : Prop :=
  ∀ clientId, cleaned s action = some clientId → ∀ other ≠ clientId,
    t.clients.lookup other = s.clients.lookup other ∧
    ∀ actorId, s.actorIdIndex.lookup actorId = some other → t.actorIdIndex.lookup actorId = some other

theorem releaseIndex_spares {index : ActorIdIndex} {other : String} {wanted : ActrId}
    (different : other ≠ clientId) (listed : index.lookup wanted = some other) :
    (Server.releaseIndex index clientId actorId replacement).lookup wanted = some other := by
  by_cases same : wanted = actorId
  · subst same
    simp [Server.releaseIndex, listed, different]
  · unfold Server.releaseIndex
    split
    · split
      · split
        · rw [AList.lookup_insert_ne same, listed]
        · rw [AList.lookup_erase_ne same, listed]
      · exact listed
    · split
      · rw [AList.lookup_insert_ne same, listed]
      · exact listed

theorem step_spares (taken : step s action = some t) : SparesOthers s action t := by
  intro clientId cleaning other different
  cases effect_step taken with
  | move => exact ⟨rfl, fun _ listed => listed⟩
  | forget | clean =>
    cases cleaning
    exact ⟨AList.lookup_erase_ne different, fun _ listed => listed⟩
  | release held =>
    simp only [cleaned, held] at cleaning
    cases cleaning
    exact ⟨rfl, fun _ listed => releaseIndex_spares different listed⟩
  | _ => cases cleaning

theorem connection_tables_consistent_iff (actions : List Action) :
    Along step (fun s action t => (t.holder = none → Consistent t) ∧ SparesOthers s action t) init actions ↔
      Along step (fun s action _ => ¬ AbortsCleanup s action) init actions := by
  apply along_iff tables_init
  · intro s action t tables taken
    constructor
    · intro good aborts
      obtain ⟨free, inconsistent⟩ := inconsistent_of_aborts tables aborts taken
      exact inconsistent (good.1 free)
    · intro guarded
      exact ⟨(step_tables tables guarded taken).consistent, step_spares taken⟩
  · intro s action t tables taken guarded
    exact step_tables tables guarded taken

def visitor : ActrId := ⟨⟨7⟩, 3, ⟨"acme", "visitor", "1.0.0"⟩⟩

def abortedCleanup : List Action :=
  [.accept "client" (some visitor) none, .register, .spawn "client", .stopReceiving "client", .cleanup "client",
    .sendTaskEnds "client", .cleanup "client"]

theorem aborted_cleanup_leaves_index : (exec step init abortedCleanup).map (fun s =>
      (s.holder, s.clients.lookup "client", s.connections.lookup "client", s.actorIdIndex.lookup visitor)) =
        some (none, none, some .closed, some "client") := by
  rfl

end Actr.Proof.Signaling
