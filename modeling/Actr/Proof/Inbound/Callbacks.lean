import Actr.Proof.Inbound.Workers

/-! # Which callback a chunk carries -/

namespace Actr.Proof.Inbound
open Hyper.Inbound Registry Library

variable {queued : QueuedChunk}

abbrev Registrations := List (String × Option DataChunkCallback)

def registeredIn (history : Registrations) (streamId : String) : Option DataChunkCallback :=
  history.foldl (fun current event => if event.1 = streamId then event.2 else current) none

theorem registeredIn_snoc (history : Registrations) (changed streamId : String)
    (callback : Option DataChunkCallback) : registeredIn (history ++ [(changed, callback)]) streamId =
      if changed = streamId then callback else registeredIn history streamId := by
  simp only [registeredIn, List.foldl_append, List.foldl_cons, List.foldl_nil]

structure Carried (history : Registrations) (call : Nat) (dispatch : Dispatch) (queued : QueuedChunk) : Prop where
  ticket : queued.ticket = call
  chunk : queued.chunk = dispatch.chunk
  senderId : queued.senderId = dispatch.senderId
  after : dispatch.begun ≤ queued.seen
  before : queued.seen ≤ history.length
  callback : registeredIn (history.take queued.seen) queued.chunk.streamId = some queued.callback

structure Carries (r : Registry) : Prop where
  held : ∀ (call : Nat) dispatch generation queued, r.dispatches[call]? = some dispatch →
    holding dispatch.phase = some (generation, queued) → Carried r.registrations call dispatch queued
  accepted : ∀ queued ∈ r.accepted, ∃ dispatch, r.dispatches[queued.ticket]? = some dispatch ∧
    dispatch.phase = .returned ∧ Carried r.registrations queued.ticket dispatch queued
  tickets : (r.accepted.map QueuedChunk.ticket).Nodup
  registered : ∀ streamId, (r.streams streamId).bind StreamEntry.callback = registeredIn r.registrations streamId
  begun : ∀ (call : Nat) dispatch, r.dispatches[call]? = some dispatch → dispatch.begun ≤ r.registrations.length

section Preservation

variable {r t : Registry} {call : Nat} {dispatch : Dispatch}

theorem carried_snoc {history : Registrations} {event : String × Option DataChunkCallback}
    (carried : Carried history call dispatch queued) : Carried (history ++ [event]) call dispatch queued := by
  refine { carried with before := ?_, callback := ?_ }
  · rw [List.length_append]
    exact Nat.le_trans carried.before (Nat.le_add_right _ _)
  · rw [List.take_append_of_le_length carried.before]
    exact carried.callback

theorem carries_event {streamId : String} {entry : Option StreamEntry} {callback : Option DataChunkCallback}
    (carries : Carries r) (named : entry.bind StreamEntry.callback = callback) :
    Carries { r with
      streams := Function.update r.streams streamId entry
      registrations := r.registrations ++ [(streamId, callback)] } := by
  constructor
  case held =>
    intro call dispatch generation queued listed holds
    exact carried_snoc (carries.held call dispatch generation queued listed holds)
  case accepted =>
    intro queued member
    obtain ⟨dispatch, listed, returned, carried⟩ := carries.accepted queued member
    exact ⟨dispatch, listed, returned, carried_snoc carried⟩
  case tickets => exact carries.tickets
  case registered =>
    intro other
    rw [registeredIn_snoc, ← carries.registered other]
    by_cases same : streamId = other
    · subst same
      simp only [Function.update_self]
      exact named
    · rw [if_neg same]
      simp only [Function.update_of_ne (Ne.symm same)]
  case begun =>
    intro call dispatch listed
    rw [List.length_append]
    exact Nat.le_trans (carries.begun call dispatch listed) (Nat.le_add_right _ _)

section

variable (carries : Carries r)
include carries

theorem carries_setPhase {phase : DispatchPhase} (found : r.dispatches[call]? = some dispatch)
    (active : dispatch.phase ≠ .returned)
    (carried : ∀ generation queued, holding phase = some (generation, queued) → Carried r.registrations call dispatch queued) :
    Carries (r.setPhase call phase) := by
  refine { carries with held := ?_, accepted := ?_, begun := ?_ }
  · intro number other generation queued listed holds
    obtain ⟨before, old, ⟨rfl, rfl⟩ | ⟨-, rfl⟩⟩ := Slots.of_modify listed
    · cases found.symm.trans old
      exact { carried generation queued holds with }
    · exact carries.held number other generation queued old holds
  · intro queued member
    obtain ⟨other, listed, returned, own⟩ := carries.accepted queued member
    have different : call ≠ queued.ticket := by
      intro same
      subst same
      cases found.symm.trans listed
      exact active returned
    exact ⟨other, (Slots.modify_other different).trans listed, returned, own⟩
  · intro number other listed
    obtain ⟨before, old, ⟨rfl, rfl⟩ | ⟨-, rfl⟩⟩ := Slots.of_modify listed
    · exact carries.begun number before old
    · exact carries.begun number other old

theorem carries_streams {streams : String → Option StreamEntry}
    (same : ∀ streamId, (streams streamId).bind StreamEntry.callback = (r.streams streamId).bind StreamEntry.callback) :
    Carries { r with streams := streams } :=
  { carries with registered := fun streamId => (same streamId).trans (carries.registered streamId) }

theorem carried_looking {entry : StreamEntry} {callback : DataChunkCallback}
    (found : r.dispatches[call]? = some dispatch) (present : r.streams dispatch.chunk.streamId = some entry)
    (named : entry.callback = some callback) : Carried r.registrations call dispatch
      ⟨dispatch.chunk, dispatch.senderId, callback, call, r.registrations.length⟩ := by
  refine ⟨rfl, rfl, rfl, carries.begun call dispatch found, Nat.le_refl _, ?_⟩
  rw [List.take_length, ← carries.registered, present]
  exact named

theorem carries_pushed {generation : Nat}
    (found : r.dispatches[call]? = some dispatch) (holds : holding dispatch.phase = some (generation, queued)) :
    Carries (r.push call generation queued) := by
  have active : dispatch.phase ≠ .returned := by
    intro returned
    rw [returned] at holds
    cases holds
  have carried := carries.held call dispatch generation queued found holds
  have moved : Carries (r.setPhase call .returned) := carries_setPhase carries found active nofun
  refine { moved with accepted := ?_, tickets := ?_ }
  · intro other member
    rcases Slots.mem_snoc member with old | rfl
    · exact moved.accepted other old
    · rw [carried.ticket]
      exact ⟨_, Slots.modify_self found, rfl, { carried with }⟩
  · have fresh : queued.ticket ∉ r.accepted.map QueuedChunk.ticket := by
      intro member
      obtain ⟨other, listed, same⟩ := List.mem_map.mp member
      obtain ⟨earlier, present, returned, -⟩ := carries.accepted other listed
      rw [same, carried.ticket] at present
      cases found.symm.trans present
      exact active returned
    change ((r.accepted ++ [queued]).map QueuedChunk.ticket).Nodup
    rw [List.map_append]
    exact Library.Slots.nodup_snoc carries.tickets fresh

theorem carries_begun (idle : holding dispatch.phase = none) (now : dispatch.begun ≤ r.registrations.length) :
    Carries { r with dispatches := r.dispatches ++ [dispatch] } := by
  refine { carries with held := ?_, accepted := ?_, begun := ?_ }
  · intro call found generation queued listed holds
    rcases Slots.of_snoc listed with old | ⟨-, rfl⟩
    · exact carries.held call found generation queued old holds
    · rw [idle] at holds
      cases holds
  · intro queued member
    obtain ⟨found, listed, rest⟩ := carries.accepted queued member
    exact ⟨found, Slots.snoc listed, rest⟩
  · intro call found listed
    rcases Slots.of_snoc listed with old | ⟨-, rfl⟩
    · exact carries.begun call found old
    · exact now

theorem carries_spawnWorker {streamId : String} {entry : StreamEntry}
    (present : r.streams streamId = some entry) : Carries (r.spawnWorker streamId entry) := by
  have same : ∀ other, ((r.spawnWorker streamId entry).streams other).bind StreamEntry.callback =
      (r.streams other).bind StreamEntry.callback := by
    intro other
    by_cases equal : other = streamId
    · subst equal
      simp only [spawnWorker, Function.update_self, present, Option.bind_some]
    · simp only [spawnWorker, Function.update_of_ne equal]
  have entries := carries_streams carries same
  exact { entries with }

theorem carries_step (effect : Effect r t) : Carries t := by
  cases effect with
  | registered | silenced => exact carries_event carries rfl
  | unknown streamId absent =>
    have same : Function.update r.streams streamId none = r.streams := by
      rw [← absent]
      exact Function.update_eq_self streamId r.streams
    have event := @carries_event r streamId none none carries rfl
    rw [same] at event
    exact event
  | begun =>
    apply carries_begun carries
    · rfl
    · exact Nat.le_refl _
  | moved call dispatch phase droppedCount found active passive =>
    have moved : Carries (r.setPhase call phase) := by
      apply carries_setPhase carries found active
      intro generation queued holds
      exact carries.held call dispatch generation queued found (passive _ holds)
    exact { moved with }
  | obtained call dispatch worker callback found looking present =>
    apply carries_setPhase carries found
    · rw [looking]
      nofun
    · intro generation queued holds
      cases holds
      exact carried_looking carries found present rfl
  | spawned streamId entry present => exact carries_spawnWorker carries present
  | erased streamId worker present =>
    apply carries_streams carries
    intro other
    by_cases equal : other = streamId
    · subst equal
      rw [Function.update_self, present, Option.bind_some, Option.bind_none]
    · rw [Function.update_of_ne equal]
  | pushed call dispatch generation queued found holds => exact carries_pushed carries found holds
  | received | advanced => exact { carries with }

end

theorem carries_build (depth : Nat) : Carries (build depth) := by
  constructor
  case held =>
    intro call dispatch generation queued listed
    cases listed
  case accepted =>
    intro queued member
    cases member
  case tickets => exact List.nodup_nil
  case registered =>
    intro streamId
    rfl
  case begun =>
    intro call dispatch listed
    cases listed

end Preservation

end Actr.Proof.Inbound
