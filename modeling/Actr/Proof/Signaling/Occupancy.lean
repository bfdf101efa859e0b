import Actr.Proof.Signaling.Connections

/-! # Actors in the connection tables -/

namespace Actr.Proof.Signaling
open Actrix.Signaling Connections Actr.Protocol Library.Maps

variable {s t : Connections} {action : Connections.Action} {clientId : String} {actorId : ActrId}
variable {identity : Option ActrId} {other : String}

def Occupied (s : Connections) (actorId : ActrId) : Prop :=
  (∃ clientId, Connected s clientId actorId) ∨ s.holder.map holderActor = some actorId

theorem connected_insertClient {webrtcRole : Option String} {wanted : ActrId}
    (missing : s.clients.lookup clientId = none) :
    Connected (s.insertClient clientId identity webrtcRole) other wanted ↔
      other = clientId ∧ identity = some wanted ∨ Connected s other wanted := by
  have inserted : (s.insertClient clientId identity webrtcRole).clients =
      s.clients.insert clientId ⟨clientId, identity, webrtcRole, true⟩ := rfl
  exact connected_insert inserted missing

theorem Occupied.connected (occupied : Occupied s actorId) (free : s.holder = none) :
    ∃ clientId, Connected s clientId actorId := by
  rcases occupied with connected | held
  · exact connected
  · rw [free] at held
    cases held

def Leaves (s : Connections) (actorId : ActrId) : Connections.Action → Prop
  | .releaseIndex => ∃ clientId, s.holder = some (.cleaning clientId actorId none)
  | .sendTaskEnds clientId => ∃ replacement, s.holder = some (.cleaning clientId actorId replacement)
  | _ => False

theorem Occupied.release (known : Known s) {cleaned : String} {wanted : ActrId} {replacement : Option String}
    {next : Connection} (held : s.holder = some (.cleaning cleaned wanted replacement)) (occupied : Occupied s actorId)
    (stays : ¬ Leaves s actorId .releaseIndex) :
    Occupied ({ s with
      actorIdIndex := Server.releaseIndex s.actorIdIndex cleaned wanted replacement
      holder := none }.setConnection cleaned next) actorId := by
  rcases occupied with connected | own
  · exact .inl connected
  · rw [held] at own
    cases own
    cases replacement with
    | none => exact absurd ⟨cleaned, held⟩ stays
    | some standing => exact .inl ⟨standing, known.standing cleaned wanted standing held⟩

theorem Occupied.abort (occupied : Occupied s actorId) (stays : ¬ Leaves s actorId (.sendTaskEnds clientId)) :
    Occupied ({ s with holder := abortReceive s.holder clientId }.setConnection clientId .closing) actorId := by
  rcases occupied with connected | own
  · exact .inl connected
  · refine .inr ?_
    cases held : s.holder with
    | none =>
      rw [held] at own
      cases own
    | some holder =>
      rw [held] at own
      cases own
      cases holder with
      | registering => simp [setConnection, abortReceive]
      | cleaning other wanted replacement =>
        have apart : other ≠ clientId := by
          rintro rfl
          exact stays ⟨replacement, held⟩
        simp [setConnection, abortReceive, apart]

theorem Occupied.step (known : Known s) (taken : s.step action = some t) (occupied : Occupied s actorId)
    (stays : ¬ Leaves s actorId action) : Occupied t actorId := by
  cases effect_step taken with
  | @claim _ wanted _ free =>
    obtain ⟨other, connected⟩ := occupied.connected free
    by_cases same : actorId = wanted
    · subst same
      exact .inr rfl
    · exact .inl ⟨other, (connected_removeStale rfl).mpr ⟨same, connected⟩⟩
  | connect free unknown =>
    obtain ⟨other, connected⟩ := occupied.connected free
    exact .inl ⟨other, (connected_insertClient (known.accepted _ unknown)).mpr (.inr connected)⟩
  | register held =>
    have missing := known.accepted _ (known.fresh _ _ _ held)
    rcases occupied with ⟨other, connected⟩ | own
    · exact .inl ⟨other, (connected_insertClient missing).mpr (.inr connected)⟩
    · rw [held] at own
      cases own
      exact .inl ⟨_, (connected_insertClient missing).mpr (.inl ⟨rfl, rfl⟩)⟩
  | move => exact occupied
  | forget free present found actorless =>
    obtain ⟨other, connected⟩ := occupied.connected free
    exact .inl ⟨other, (connected_erase_foreign rfl found (by simp [actorless]) other).mpr connected⟩
  | @clean _ _ wanted free found own =>
    obtain ⟨other, connected⟩ := occupied.connected free
    by_cases same : wanted = actorId
    · subst same
      exact .inr rfl
    · exact .inl ⟨other, (connected_erase_foreign rfl found (by simpa [own] using same) other).mpr connected⟩
  | release held => exact occupied.release known held stays
  | abort => exact occupied.abort stays

theorem latest_step (known : Known s) (taken : s.step action = some t) :
    t.latest.lookup actorId = s.latest.lookup actorId ∨ Occupied t actorId := by
  cases effect_step taken with
  | @register registered wanted webrtcRole held =>
    by_cases same : actorId = wanted
    · subst same
      have missing := known.accepted registered (known.fresh registered actorId webrtcRole held)
      exact .inr (.inl ⟨registered, (connected_insertClient missing).mpr (.inl ⟨rfl, rfl⟩)⟩)
    · exact .inl (AList.lookup_insert_ne same)
  | _ => exact .inl rfl

theorem connected_step (taken : s.step action = some t) (connected : Connected t other actorId) :
    Connected s other actorId ∨ action = .register ∧ ∃ webrtcRole, s.holder = some (.registering other actorId webrtcRole) := by
  cases effect_step taken with
  | @register registered wanted webrtcRole held =>
    obtain ⟨client, found, own⟩ := connected
    rcases of_lookup_insert found with ⟨rfl, rfl⟩ | ⟨-, before⟩
    · cases own
      exact .inr ⟨rfl, webrtcRole, held⟩
    · exact .inl ⟨client, before, own⟩
  | claim => exact .inl ((connected_removeStale rfl).mp connected).2
  | connect =>
    obtain ⟨client, found, own⟩ := connected
    rcases of_lookup_insert found with ⟨rfl, rfl⟩ | ⟨-, before⟩
    · cases own
    · exact .inl ⟨client, before, own⟩
  | forget | clean => exact .inl ((connected_erase rfl).mp connected).2
  | _ => exact .inl connected

theorem cleaning_step {replacement : Option String} (taken : s.step action = some t)
    (held : t.holder = some (.cleaning other actorId replacement)) :
    s.holder = some (.cleaning other actorId replacement) ∧ action ≠ .releaseIndex ∨ action = .cleanup other := by
  cases effect_step taken with
  | claim | register | release => cases held
  | connect | forget => exact .inl ⟨held, by simp⟩
  | move moving =>
    refine .inl ⟨held, ?_⟩
    rintro rfl
    cases moving
  | clean =>
    cases held
    exact .inr rfl
  | abort => exact .inl ⟨held_of_abortReceive held, by simp⟩

end Actr.Proof.Signaling
