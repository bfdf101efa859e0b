import Actr.Actrix.Signaling.Sessions
import Actr.Proof.Signaling.Occupancy
import Actr.Proof.Signaling.RegistryEntries

/-! # Registry entries and subscriptions over reconnects -/

namespace Actr.Proof.Signaling
open Actrix.Signaling Actr.Protocol Library.Machine Library.Maps

variable {loaded : Option (Except String (List ServiceInfo))}

def Present (s : Sessions) (actorId : ActrId) : Prop :=
  (∃ entry ∈ s.tables.clients.entries, entry.2.actorId = some actorId) ∨ s.tables.holder.map holderActor = some actorId ∨
    ∃ entry ∈ s.releasing.entries, entry.2.1 = actorId
  deriving Decidable

def Departed (s : Sessions) (actorId : ActrId) : Prop :=
  s.tables.latest.lookup actorId ≠ none ∧ ¬ Present s actorId
  deriving Decidable

def Unsubscribed (s : Sessions) (actorId : ActrId) : Prop :=
  ∀ entry ∈ s.presenceManager.subscriptions.entries, actorId ∉ entry.2
  deriving Decidable

def Absent (s : Sessions) (actorId : ActrId) : Prop :=
  (∀ service ∈ s.serviceRegistry.all, service.actorId ≠ actorId) ∧ s.serviceRegistry.actorIndex.lookup actorId = none ∧
    Unsubscribed s actorId
  deriving Decidable

structure Settled (s : Sessions) : Prop where
  kept : ∀ clientId actorId, Connected s.tables clientId actorId → s.enrolling.lookup clientId = none →
    actorId ∉ s.lapsed → ∃ service ∈ s.serviceRegistry.instancesOf (serviceNameOf actorId), service.actorId = actorId
  gone : ∀ actorId, Departed s actorId → Absent s actorId

def Replaced (s : Sessions) (actorId : ActrId) : Prop :=
  actorId ∉ s.lapsed ∧
    ∃ entry ∈ s.tables.clients.entries, entry.2.actorId = some actorId ∧ s.enrolling.lookup entry.1 = none
  deriving Decidable

/-- The actors whose cleanup a step aborts between the removal of the client and the registry. -/
def aborted (s : Sessions) : Connections.Action → List ActrId
  | .sendTaskEnds clientId =>
    (match s.tables.holder with
      | some (.cleaning cleaned actorId _) => if cleaned = clientId then [actorId] else []
      | _ => []) ++ ((s.releasing.lookup clientId).map Prod.fst).toList
  | _ => []

/-- The types that `actorId` has subscribed to and has not unsubscribed from since. -/
def outstanding (actorId : ActrId) (past : List Sessions.Action) : List ActrType :=
  past.foldl (fun types action =>
    match action with
    | .subscribe _ source targetType => if source = actorId then targetType :: types else types
    | .unsubscribe _ source targetType => if source = actorId then types.filter (· ≠ targetType) else types
    | _ => types) []

/-- What is asked of a step, with the actions that came before it. -/
def Orderly (past : List Sessions.Action) (s : Sessions) (action : Sessions.Action) : Prop :=
  match action with
  | .connection action => aborted s action = []
  | .enroll clientId _ _ => ∀ actorId ∈ s.enrolling.lookup clientId, ¬ Departed s actorId
  | .releaseServices clientId => ∀ released ∈ s.releasing.lookup clientId, ¬ Replaced s released.1 ∧
      (Present { s with releasing := s.releasing.erase clientId } released.1 ∨ outstanding released.1 past = [])
  | .ping _ source world _ _ => Departed s source → ∀ service ∈ stored world.storage, service.actorId ≠ source
  | .subscribe _ source _ => ¬ Departed s source
  | .unsubscribe _ _ _ => True
  | .expire _ _ => True

instance (past : List Sessions.Action) (s : Sessions) (action : Sessions.Action) : Decidable (Orderly past s action) := by
  unfold Orderly
  split
  all_goals infer_instance

section Sessions

variable {s t : Sessions} {actorId other : ActrId} {clientId : String} {action : Connections.Action}
  {past : List Sessions.Action}

theorem present_iff :
    Present s actorId ↔ Occupied s.tables actorId ∨ ∃ clientId mode, s.releasing.lookup clientId = some (actorId, mode) := by
  unfold Present Occupied Connected
  rw [exists_entry, exists_entry, or_assoc]
  simp

theorem replaced_iff : Replaced s actorId ↔ actorId ∉ s.lapsed ∧
      ∃ clientId, Connected s.tables clientId actorId ∧ s.enrolling.lookup clientId = none := by
  unfold Replaced Connected
  rw [exists_entry]
  simp only [← and_assoc, exists_and_right]

theorem unsubscribed_iff : Unsubscribed s actorId ↔ ∀ targetType, actorId ∉ s.presenceManager.getSubscribers targetType := by
  have listed : _ ↔ ∃ targetType, actorId ∈ s.presenceManager.getSubscribers targetType := exists_mem_entry
  simpa [Unsubscribed, Sigma.forall] using not_congr listed

def Tracked (past : List Sessions.Action) (s : Sessions) : Prop :=
  ∀ actorId targetType, actorId ∈ s.presenceManager.getSubscribers targetType → targetType ∈ outstanding actorId past

/-- A step of the tables, with what it does to the tasks that wait for the registry. -/
structure Connects (s : Sessions) (action : Connections.Action) (t : Sessions) : Prop where
  moved : s.tables.step action = some t.tables
  registry : t.serviceRegistry = s.serviceRegistry
  presence : t.presenceManager = s.presenceManager
  lapsed : t.lapsed = s.lapsed
  enrolling : t.enrolling = s.enrolling ∧ action ≠ .register ∨ action = .register ∧ ∃ clientId actorId webrtcRole,
    s.tables.holder = some (.registering clientId actorId webrtcRole) ∧
      t.enrolling = s.enrolling.insert clientId actorId
  releasing : t.releasing = s.releasing ∧ (∀ actorId, ¬ Leaves s.tables actorId action) ∨
    action = .releaseIndex ∧ (∃ clientId actorId mode, s.tables.holder = some (.cleaning clientId actorId none) ∧
      t.releasing = s.releasing.insert clientId (actorId, mode)) ∨
    ∃ clientId, action = .sendTaskEnds clientId ∧ t.releasing = s.releasing.erase clientId

theorem connects_of (taken : s.connect action = some t) : Connects s action t := by
  cases action with
  | register =>
    simp only [Sessions.connect, Sessions.advance] at taken
    split at taken
    · next clientId actorId webrtcRole held =>
      simp only [Option.map_map, Option.map_eq_some_iff] at taken
      obtain ⟨tables, moved, rfl⟩ := taken
      exact ⟨moved, rfl, rfl, rfl, .inr ⟨rfl, clientId, actorId, webrtcRole, held, rfl⟩, .inl ⟨rfl, fun _ => id⟩⟩
    · cases taken
  | releaseIndex =>
    simp only [Sessions.connect, Sessions.advance] at taken
    split at taken
    · next clientId actorId held =>
      simp only [Option.map_map, Option.map_eq_some_iff] at taken
      obtain ⟨tables, moved, rfl⟩ := taken
      exact ⟨moved, rfl, rfl, rfl, .inl ⟨rfl, nofun⟩, .inr (.inl ⟨rfl, clientId, actorId, _, held, rfl⟩)⟩
    · next replaced =>
      obtain ⟨tables, moved, rfl⟩ := Option.map_eq_some_iff.mp taken
      refine ⟨moved, rfl, rfl, rfl, .inl ⟨rfl, nofun⟩, .inl ⟨rfl, ?_⟩⟩
      rintro actorId ⟨clientId, held⟩
      exact replaced clientId actorId held
  | sendTaskEnds clientId =>
    simp only [Sessions.connect, Sessions.advance, Option.map_map, Option.map_eq_some_iff] at taken
    obtain ⟨tables, moved, rfl⟩ := taken
    exact ⟨moved, rfl, rfl, rfl, .inl ⟨rfl, nofun⟩, .inr (.inr ⟨clientId, rfl, rfl⟩)⟩
  | _ =>
    simp only [Sessions.connect, Sessions.whenIdle, Sessions.advance] at taken
    repeat' split at taken
    all_goals
      simp only [Option.map_eq_some_iff, reduceCtorEq] at taken
    all_goals
      obtain ⟨tables, moved, rfl⟩ := taken
      exact ⟨moved, rfl, rfl, rfl, .inl ⟨rfl, nofun⟩, .inl ⟨rfl, fun _ => id⟩⟩

structure Inv (s : Sessions) : Prop where
  known : Known s.tables
  exact : ActorExact s.serviceRegistry
  idle : ∀ clientId actorId replacement, s.tables.holder = some (.cleaning clientId actorId replacement) →
    s.releasing.lookup clientId = none
  owned : ∀ clientId actorId other, s.enrolling.lookup clientId = some actorId → Connected s.tables clientId other →
    other = actorId
  live : ∀ clientId actorId, Connected s.tables clientId actorId → s.enrolling.lookup clientId = none →
    actorId ∉ s.lapsed → Live s.serviceRegistry actorId (serviceNameOf actorId)
  absent : ∀ actorId, Departed s actorId → ∀ name, actorId ∉ actorsOf s.serviceRegistry name
  unsubscribed : ∀ actorId, Departed s actorId → Unsubscribed s actorId

theorem Inv.settled (inv : Inv s) : Settled s where
  kept clientId actorId connected enrolled current :=
    mem_actorsOf.mp (inv.live clientId actorId connected enrolled current).mem_actorsOf
  gone actorId departed :=
    ⟨absent_iff.mpr (inv.absent actorId departed), inv.exact.lookup_none (inv.absent actorId departed),
      inv.unsubscribed actorId departed⟩

section

variable (inv : Inv s) (taken : s.connect action = some t)
include inv taken

theorem present_connect (present : Present s actorId) : Present t actorId ∨ actorId ∈ aborted s action := by
  have moved := (connects_of taken).moved
  rw [present_iff] at present
  rcases present with occupied | ⟨clientId, mode, pending⟩
  · by_cases leaves : Leaves s.tables actorId action
    · rcases (connects_of taken).releasing with ⟨-, stays⟩ | ⟨rfl, clientId, owner, mode, held, queued⟩ | ⟨clientId, rfl, -⟩
      · exact absurd leaves (stays actorId)
      · obtain ⟨cleaned, held'⟩ := leaves
        cases held.symm.trans held'
        refine .inl (present_iff.mpr (.inr ⟨clientId, mode, ?_⟩))
        rw [queued, AList.lookup_insert]
      · obtain ⟨replacement, held⟩ := leaves
        exact .inr (by simp [aborted, held])
    · exact .inl (present_iff.mpr (.inl (occupied.step inv.known moved leaves)))
  · rcases (connects_of taken).releasing with ⟨same, -⟩ | ⟨rfl, cleaned, owner, _, held, queued⟩ | ⟨ended, rfl, dropped⟩
    · refine .inl (present_iff.mpr (.inr ⟨clientId, mode, ?_⟩))
      rw [same, pending]
    · refine .inl (present_iff.mpr (.inr ⟨clientId, mode, ?_⟩))
      have apart : clientId ≠ cleaned := by
        rintro rfl
        cases pending.symm.trans (inv.idle clientId owner none held)
      rw [queued, AList.lookup_insert_ne apart, pending]
    · by_cases same : clientId = ended
      · subst same
        exact .inr (by simp [aborted, pending])
      · refine .inl (present_iff.mpr (.inr ⟨clientId, mode, ?_⟩))
        rw [dropped, AList.lookup_erase_ne same, pending]

theorem departed_connect (departed : Departed t actorId) : Departed s actorId ∨ actorId ∈ aborted s action := by
  have moved := (connects_of taken).moved
  by_cases listed : actorId ∈ aborted s action
  · exact .inr listed
  · refine .inl ⟨?_, ?_⟩
    · rcases latest_step inv.known moved with same | occupied
      · rw [← same]
        exact departed.1
      · exact absurd (present_iff.mpr (.inl occupied)) departed.2
    · intro present
      rcases present_connect inv taken present with after | ended
      · exact departed.2 after
      · exact listed ended

theorem idle_connect {replacement : Option String}
    (held : t.tables.holder = some (.cleaning clientId actorId replacement)) :
    t.releasing.lookup clientId = none := by
  have moved := (connects_of taken).moved
  rcases cleaning_step moved held with ⟨before, going⟩ | rfl
  · have waiting := inv.idle clientId actorId replacement before
    rcases (connects_of taken).releasing with ⟨same, -⟩ | ⟨rfl, -⟩ | ⟨ended, rfl, dropped⟩
    · rw [same, waiting]
    · exact absurd rfl going
    · rw [dropped]
      exact lookup_erase_none waiting
  · simp only [Sessions.connect, Sessions.whenIdle, Sessions.advance] at taken
    split at taken
    · next waiting =>
      obtain ⟨tables, -, rfl⟩ := Option.map_eq_some_iff.mp taken
      exact waiting
    · cases taken

end

theorem connected_connect (inv : Inv s) (taken : s.connect action = some t)
    (connected : Connected t.tables clientId actorId) :
    Connected s.tables clientId actorId ∧ t.enrolling.lookup clientId = s.enrolling.lookup clientId ∨
      t.enrolling.lookup clientId = some actorId := by
  rcases (connects_of taken).enrolling with ⟨same, going⟩ | ⟨rfl, registered, wanted, webrtcRole, held, inserted⟩
  · rcases connected_step (connects_of taken).moved connected with before | ⟨registers, -⟩
    · exact .inl ⟨before, by rw [same]⟩
    · exact absurd registers going
  · rcases connected_step (connects_of taken).moved connected with before | ⟨-, role, held'⟩
    · have apart : clientId ≠ registered := by
        rintro rfl
        obtain ⟨client, found, -⟩ := before
        cases (inv.known.accepted clientId (inv.known.fresh clientId wanted webrtcRole held)).symm.trans found
      exact .inl ⟨before, by rw [inserted, AList.lookup_insert_ne apart]⟩
    · cases held.symm.trans held'
      exact .inr (by rw [inserted, AList.lookup_insert])

theorem absent_congr (registry : t.serviceRegistry = s.serviceRegistry)
    (presence : t.presenceManager = s.presenceManager) : Absent t actorId ↔ Absent s actorId := by
  unfold Absent Unsubscribed
  rw [registry, presence]

theorem Inv.connect (inv : Inv s) (taken : s.connect action = some t) (orderly : Orderly past s (.connection action)) :
    Inv t := by
  obtain ⟨moved, registry, presence, lapsed, -, -⟩ := connects_of taken
  have gone (actorId : ActrId) (departed : Departed t actorId) : Absent t actorId := by
    rw [absent_congr registry presence]
    rcases departed_connect inv taken departed with before | ended
    · exact inv.settled.gone actorId before
    · rw [show aborted s action = [] from orderly] at ended
      cases ended
  constructor
  case known => exact step_known inv.known moved
  case exact =>
    rw [registry]
    exact inv.exact
  case idle => exact fun clientId actorId replacement held => idle_connect inv taken held
  case owned =>
    intro clientId actorId other enrolling connected
    rcases connected_connect inv taken connected with ⟨before, same⟩ | own
    · exact inv.owned clientId actorId other (same.symm.trans enrolling) before
    · exact Option.some.inj (own.symm.trans enrolling)
  case live =>
    intro clientId actorId connected enrolled current
    rcases connected_connect inv taken connected with ⟨before, same⟩ | own
    · rw [lapsed] at current
      rw [registry]
      exact inv.live clientId actorId before (same.symm.trans enrolled) current
    · cases own.symm.trans enrolled
  case absent => exact fun actorId departed => absent_iff.mp (gone actorId departed).1
  case unsubscribed => exact fun actorId departed => (gone actorId departed).2.2

variable {wsAddress : Option String} {now : UInt64}

theorem Inv.enroll (inv : Inv s) (taken : s.enroll clientId wsAddress now = some t)
    (orderly : Orderly past s (.enroll clientId wsAddress now)) : Inv t := by
  obtain ⟨wanted, waiting, rfl⟩ := Option.map_eq_some_iff.mp taken
  have staying := orderly wanted waiting
  refine { inv with
    exact := inv.exact.register wanted (serviceNameOf wanted) [] wsAddress now
    owned := ?owned, live := ?live, absent := ?absent }
  case owned =>
    intro other actorId owner enrolling connected
    exact inv.owned other actorId owner (of_lookup_erase enrolling).2 connected
  case live =>
    intro other actorId connected enrolled current
    by_cases mine : actorId = wanted
    · subst mine
      exact live_register
    · have apart : other ≠ clientId := by
        rintro rfl
        exact mine (inv.owned other wanted actorId waiting connected)
      rw [AList.lookup_erase_ne apart] at enrolled
      have before : actorId ∉ s.lapsed := by
        intro member
        exact current (List.mem_filter.mpr ⟨member, by simpa using mine⟩)
      exact (inv.live other actorId connected enrolled before).register
  case absent =>
    intro actorId departed name member
    have before : Departed s actorId := departed
    rcases mem_actorsOf_register member with rfl | old
    · exact staying before
    · exact inv.absent actorId before name old

theorem departed_release (taken : s.releaseServices clientId = some t) {mode : Server.CleanupMode}
    (waiting : s.releasing.lookup clientId = some (other, mode)) (distinct : actorId ≠ other)
    (departed : Departed t actorId) : Departed s actorId := by
  obtain ⟨released, waiting', rfl⟩ := Option.map_eq_some_iff.mp taken
  refine ⟨departed.1, ?_⟩
  intro present
  apply departed.2
  rw [present_iff] at present ⊢
  rcases present with occupied | ⟨pendingId, pendingMode, pending⟩
  · exact .inl occupied
  · refine .inr ⟨pendingId, pendingMode, ?_⟩
    have apart : pendingId ≠ clientId := by
      rintro rfl
      cases pending.symm.trans waiting
      exact distinct rfl
    exact (AList.lookup_erase_ne apart).trans pending

theorem Inv.releaseServices (inv : Inv s) (taken : s.releaseServices clientId = some t)
    (tracked : Tracked past s)
    (orderly : Orderly past s (.releaseServices clientId)) : Inv t := by
  obtain ⟨⟨owner, mode⟩, waiting, rfl⟩ := Option.map_eq_some_iff.mp taken
  obtain ⟨unreplaced, leaving⟩ := orderly (owner, mode) waiting
  constructor
  case known => exact inv.known
  case exact => exact inv.exact.releaseServices mode
  case idle =>
    intro other actorId replacement held
    exact lookup_erase_none (inv.idle other actorId replacement held)
  case owned => exact inv.owned
  case live =>
    intro other actorId connected enrolled current
    by_cases mine : actorId = owner
    · subst mine
      exact absurd (replaced_iff.mpr ⟨current, other, connected, enrolled⟩) unreplaced
    · exact (spares_releaseServices mine mode).live (inv.live other actorId connected enrolled current)
  case absent =>
    intro actorId departed name member
    by_cases mine : actorId = owner
    · subst mine
      exact absent_releaseServices inv.exact mode name member
    · have before := departed_release taken waiting mine departed
      exact inv.absent actorId before name ((spares_releaseServices mine mode).mem_actorsOf member)
  case unsubscribed =>
    intro actorId departed
    by_cases mine : actorId = owner
    · subst mine
      rcases leaving with present | withdrawn
      · exact absurd present departed.2
      · refine unsubscribed_iff.mpr fun targetType member => ?_
        have listed := tracked actorId targetType member
        rw [withdrawn] at listed
        cases listed
    · exact inv.unsubscribed actorId (departed_release taken waiting mine departed)

theorem whenServing_eq {next : Sessions} (taken : s.whenServing clientId next = some t) : t = next := by
  unfold Sessions.whenServing Sessions.whenIdle at taken
  repeat' split at taken
  all_goals cases taken
  rfl

theorem Inv.update (inv : Inv s) {registry : ServiceRegistry} {presence : PresenceManager} {lapsed : List ActrId}
    (exact : ActorExact registry) (lapsing : ∀ actorId ∈ s.lapsed, actorId ∈ lapsed)
    (live : ∀ actorId, actorId ∉ lapsed → Live s.serviceRegistry actorId (serviceNameOf actorId) →
      Live registry actorId (serviceNameOf actorId))
    (absent : ∀ actorId name, Departed s actorId → actorId ∈ actorsOf registry name →
      actorId ∈ actorsOf s.serviceRegistry name)
    (unsubscribed : ∀ actorId targetType, Departed s actorId → actorId ∈ presence.getSubscribers targetType →
      actorId ∈ s.presenceManager.getSubscribers targetType) :
    Inv { s with serviceRegistry := registry, presenceManager := presence, lapsed } where
  __ := inv
  exact := exact
  live clientId actorId connected enrolled current :=
    live actorId current (inv.live clientId actorId connected enrolled fun member => current (lapsing actorId member))
  absent actorId departed name member :=
    inv.absent actorId departed name (absent actorId name departed member)
  unsubscribed actorId departed := by
    have before := unsubscribed_iff.mp (inv.unsubscribed actorId departed)
    exact unsubscribed_iff.mpr fun targetType member => before targetType (unsubscribed actorId targetType departed member)

variable {source : ActrId} {targetType : ActrType} {world : World} {heartbeat : Ping} {order : List String}

theorem Inv.ping (inv : Inv s) (orderly : Orderly past s (.ping clientId source world heartbeat now)) :
    Inv { s with serviceRegistry := Server.pinged world s.serviceRegistry source heartbeat now } := by
  refine inv.update inv.exact.pinged (fun _ member => member) (fun _ _ live => carries_pinged.live live) ?_
    fun _ _ _ member => member
  intro actorId name departed member
  by_cases mine : actorId = source
  · subst mine
    have unindexed := inv.exact.lookup_none (inv.absent actorId departed)
    rw [pinged_of_foreign unindexed (orderly departed)] at member
    exact member
  · exact (spares_pinged mine s.serviceRegistry heartbeat now).mem_actorsOf member

theorem Inv.subscribe (inv : Inv s) (orderly : Orderly past s (.subscribe clientId source targetType)) :
    Inv { s with presenceManager := s.presenceManager.subscribe source targetType } := by
  refine inv.update inv.exact (fun _ member => member) (fun _ _ live => live) (fun _ _ _ member => member) ?_
  intro actorId wanted departed member
  rcases mem_subscribe.mp member with old | ⟨-, rfl⟩
  · exact old
  · exact absurd departed orderly

theorem Inv.unsubscribe (inv : Inv s) :
    Inv { s with presenceManager := (s.presenceManager.unsubscribe source targetType).2 } :=
  inv.update inv.exact (fun _ member => member) (fun _ _ live => live) (fun _ _ _ member => member)
    fun _ _ _ member => (mem_unsubscribe.mp member).1

theorem Inv.expire (inv : Inv s) (taken : s.expire now order = some t) : Inv t := by
  obtain ⟨-, rfl⟩ := of_guard taken
  refine inv.update (inv.exact.cleanup now order) (fun _ member => List.mem_append_left _ member) ?_
    (fun _ _ _ member => mem_actorsOf_cleanup member) (fun _ _ _ member => member)
  intro actorId current live
  apply live.cleanup
  intro service listed own named
  by_contra old
  apply current
  apply List.mem_append_right
  apply List.mem_flatMap.mpr
  refine ⟨serviceNameOf actorId, named, List.mem_map.mpr ⟨service, List.mem_filter.mpr ⟨listed, ?_⟩, own⟩⟩
  simpa [own] using old

theorem Inv.step {action : Sessions.Action} (inv : Inv s) (tracked : Tracked past s) (taken : s.step action = some t)
    (orderly : Orderly past s action) : Inv t := by
  cases action with
  | connection => exact inv.connect taken orderly
  | enroll => exact inv.enroll taken orderly
  | releaseServices => exact inv.releaseServices taken tracked orderly
  | ping =>
    cases whenServing_eq taken
    exact inv.ping orderly
  | subscribe =>
    cases whenServing_eq taken
    exact inv.subscribe orderly
  | unsubscribe =>
    cases whenServing_eq taken
    exact inv.unsubscribe
  | expire => exact inv.expire taken

theorem Tracked.same {action : Sessions.Action} (tracked : Tracked past s)
    (presence : t.presenceManager = s.presenceManager)
    (kept : ∀ actorId, outstanding actorId (past ++ [action]) = outstanding actorId past) :
    Tracked (past ++ [action]) t := by
  intro actorId targetType member
  rw [kept]
  exact tracked actorId targetType (presence ▸ member)

theorem Tracked.step {action : Sessions.Action} (tracked : Tracked past s) (taken : s.step action = some t) :
    Tracked (past ++ [action]) t := by
  cases action with
  | connection => exact tracked.same (connects_of taken).presence fun _ => List.foldl_concat ..
  | enroll =>
    obtain ⟨_, -, rfl⟩ := Option.map_eq_some_iff.mp taken
    exact tracked.same rfl fun _ => List.foldl_concat ..
  | releaseServices =>
    obtain ⟨_, -, rfl⟩ := Option.map_eq_some_iff.mp taken
    exact tracked.same rfl fun _ => List.foldl_concat ..
  | ping =>
    cases whenServing_eq taken
    exact tracked.same rfl fun _ => List.foldl_concat ..
  | expire =>
    obtain ⟨-, rfl⟩ := of_guard taken
    exact tracked.same rfl fun _ => List.foldl_concat ..
  | subscribe clientId source wanted =>
    cases whenServing_eq taken
    intro actorId targetType member
    rw [outstanding, List.foldl_concat]
    rcases mem_subscribe.mp member with old | ⟨rfl, rfl⟩
    · dsimp only
      split
      · exact List.mem_cons_of_mem _ (tracked actorId targetType old)
      · exact tracked actorId targetType old
    · simp
  | unsubscribe clientId source wanted =>
    cases whenServing_eq taken
    intro actorId targetType member
    obtain ⟨old, other⟩ := mem_unsubscribe.mp member
    have listed := tracked actorId targetType old
    rw [outstanding, List.foldl_concat]
    dsimp only
    split
    · next own =>
      refine List.mem_filter.mpr ⟨listed, decide_eq_true ?_⟩
      rintro rfl
      exact other ⟨rfl, own.symm⟩
    · exact listed

theorem inv_start (keyed : ((stored loaded).map rowKey).Nodup) : Inv (Sessions.start loaded) := by
  have nobody (actorId : ActrId) : ¬ Departed (Sessions.start loaded) actorId := fun departed => departed.1 rfl
  constructor
  case known => exact known_init
  case exact => exact actorExact_restored keyed
  case idle | owned => nofun
  case live =>
    rintro clientId actorId ⟨client, found, -⟩
    cases found
  case absent | unsubscribed => exact fun actorId departed => absurd departed (nobody actorId)

end Sessions

section Runs

open Sessions

def connects (clientId : String) : List Sessions.Action :=
  [.connection (.accept clientId (some visitor) none), .connection .register, .enroll clientId none 100,
    .connection (.spawn clientId)]

def leaves (clientId : String) : List Sessions.Action :=
  [.connection (.stopReceiving clientId), .connection (.cleanup clientId), .connection .releaseIndex]

def ends (clientId : String) : List Sessions.Action :=
  [.connection (.receiveTaskEnds clientId), .connection (.cleanup clientId)]

def restoredVisitor : ServiceInfo :=
  { actorId := visitor, serviceName := "acme:visitor", messageTypes := [], status := .available
    lastHeartbeatTimeSecs := 90, serviceAvailabilityState := none, powerReserve := none, mailboxBacklog := none
    wsAddress := none, isRestoredFromStorage := false }

def orderlyReconnect : List Sessions.Action :=
  connects "old" ++ leaves "old" ++ [.releaseServices "old"] ++ connects "new" ++ ends "old" ++
    [.subscribe "new" visitor visitor.type, .expire 120 ["acme:visitor"], .unsubscribe "new" visitor visitor.type] ++
    leaves "new" ++ [.releaseServices "new"] ++ ends "new"

def overtakenCleanup : List Sessions.Action :=
  connects "old" ++ leaves "old" ++ connects "new" ++ [.releaseServices "old"] ++ ends "old"

def subscribedDeparture : List Sessions.Action :=
  connects "client" ++ [.subscribe "client" visitor visitor.type] ++ leaves "client" ++ [.releaseServices "client"] ++
    ends "client"

def abortedRelease : List Sessions.Action :=
  connects "client" ++ leaves "client" ++ [.connection (.sendTaskEnds "client"), .connection (.cleanup "client")]

def observe (s : Sessions) (clientId : String) : Option ClientConnection × Option Connection × Bool × List ActrId :=
  (s.tables.clients.lookup clientId, s.tables.connections.lookup clientId, s.releasing.entries.isEmpty,
    (s.serviceRegistry.instancesOf (serviceNameOf visitor)).map fun service => service.actorId)

end Runs

end Actr.Proof.Signaling
