import Actr.Hyper.Inbound.DataChunkRegistry
import Actr.Library.Slots
import Mathlib.Logic.Relation

/-! # What one step of the registry does -/

namespace Actr.Proof.Inbound
open Actr.Protocol Hyper.Inbound Registry

variable {generation : Nat} {worker : WorkerTask}

def holding : DispatchPhase → Option (Nat × QueuedChunk)
  | .sending generation queued | .stalled generation queued => some (generation, queued)
  | _ => none

inductive Advances (r : Registry) (generation : Nat) (worker : WorkerTask) : WorkerPhase → Prop
  | called (queued : QueuedChunk) : worker.phase = .running queued → Advances r generation worker .receiving
  | drained : worker.phase = .receiving → worker.queue = [] → r.hasSender generation worker = false →
      Advances r generation worker .left
  | marked : worker.phase = .left → Advances r generation worker .finished
  | notified : worker.phase = .finished → Advances r generation worker .notified
  | exited : worker.phase = .notified → Advances r generation worker .exited

inductive Effect (r : Registry) : Registry → Prop
  | registered (streamId : String) (callback : DataChunkCallback) :
      Effect r { r with
        streams := Function.update r.streams streamId
          (some ⟨some callback, ((r.streams streamId).getD ⟨none, none⟩).worker⟩)
        registrations := r.registrations ++ [(streamId, some callback)] }
  | unknown (streamId : String) (absent : r.streams streamId = none) :
      Effect r { r with registrations := r.registrations ++ [(streamId, none)] }
  | silenced (streamId : String) (entry : StreamEntry) (present : r.streams streamId = some entry) :
      Effect r { r with
        streams := Function.update r.streams streamId
          (some ⟨none, entry.worker.map fun worker => { worker with hasTx := false }⟩)
        registrations := r.registrations ++ [(streamId, none)] }
  | erased (streamId : String) (worker : Option StreamWorker) (present : r.streams streamId = some ⟨none, worker⟩)
      (free : ∀ entry, worker = some entry → r.isFinished entry.generation = true) :
      Effect r { r with streams := Function.update r.streams streamId none }
  | begun (chunk : DataChunk) (senderId : ActrId) (payloadType : PayloadType) :
      Effect r { r with
        dispatches := r.dispatches ++ [⟨chunk, senderId, payloadType, .looking, r.registrations.length⟩] }
  | moved (call : Nat) (dispatch : Dispatch) (phase : DispatchPhase) (droppedCount : Nat)
      (found : r.dispatches[call]? = some dispatch) (active : dispatch.phase ≠ .returned)
      (passive : ∀ held, holding phase = some held → holding dispatch.phase = some held) :
      Effect r { r.setPhase call phase with droppedCount := droppedCount }
  | obtained (call : Nat) (dispatch : Dispatch) (worker : StreamWorker) (callback : DataChunkCallback)
      (found : r.dispatches[call]? = some dispatch) (looking : dispatch.phase = .looking)
      (present : r.streams dispatch.chunk.streamId = some ⟨some callback, some worker⟩) (sender : worker.hasTx = true) :
      Effect r (r.setPhase call (.sending worker.generation
        ⟨dispatch.chunk, dispatch.senderId, callback, call, r.registrations.length⟩))
  | spawned (streamId : String) (entry : StreamEntry) (present : r.streams streamId = some entry)
      (free : ∀ worker, entry.worker = some worker → r.isFinished worker.generation = true) :
      Effect r (r.spawnWorker streamId entry)
  | pushed (call : Nat) (dispatch : Dispatch) (generation : Nat) (queued : QueuedChunk)
      (found : r.dispatches[call]? = some dispatch) (holds : holding dispatch.phase = some (generation, queued)) :
      Effect r (r.push call generation queued)
  | received (generation : Nat) (worker : WorkerTask) (queued : QueuedChunk) (rest : List QueuedChunk)
      (listed : r.workers[generation]? = some worker) (receiving : worker.phase = .receiving)
      (queue : worker.queue = queued :: rest) :
      Effect r { r.setWorker generation { worker with queue := rest, phase := .running queued } with
        delivered := r.delivered ++ [queued] }
  | advanced (generation : Nat) (worker : WorkerTask) (phase : WorkerPhase) (panicCount : Nat)
      (listed : r.workers[generation]? = some worker) (advances : Advances r generation worker phase) :
      Effect r { r.setWorker generation { worker with phase := phase } with panicCount := panicCount }

/-- A step runs as a short sequence of effects. -/
abbrev Effects := Relation.ReflTransGen Effect

section Steps

variable {r t : Registry} {call : Nat} {dispatch : Dispatch}

theorem effects_unregister (streamId : String) : Effects r (r.unregister streamId) := by
  unfold unregister
  cases present : r.streams streamId with
  | none =>
    simp only [present]
    exact .single (.unknown streamId present)
  | some entry =>
    have silenced := Effect.silenced streamId entry present
    have removed (free : ∀ worker, entry.worker = some worker → r.isFinished worker.generation = true) :
        Effects r { r with
          streams := Function.update r.streams streamId none
          registrations := r.registrations ++ [(streamId, none)] } := by
      have finished : ∀ kept, (entry.worker.map fun worker => { worker with hasTx := false }) = some kept →
          r.isFinished kept.generation = true := by
        intro _ named
        obtain ⟨worker, is, rfl⟩ := Option.map_eq_some_iff.mp named
        exact free worker is
      have erased := (Relation.ReflTransGen.single silenced).tail
        (.erased streamId _ (Function.update_self ..) finished)
      rwa [Function.update_idem] at erased
    obtain ⟨callback, worker⟩ := entry
    cases worker with
    | none =>
      simp only [present, if_true]
      exact removed nofun
    | some =>
      simp only [present]
      split
      · next finished =>
        refine removed ?_
        rintro _ ⟨⟩
        exact finished
      · exact .single silenced

theorem cleanup_streams :
    (r.cleanup generation worker).streams = r.streams ∨
      ((r.cleanup generation worker).streams = Function.update r.streams worker.streamId none ∧
        ∃ entry current, r.streams worker.streamId = some entry ∧ entry.callback = none ∧
          entry.worker = some current ∧ current.generation = generation) := by
  unfold Registry.cleanup
  cases present : r.streams worker.streamId with
  | none => exact .inl rfl
  | some entry =>
    obtain ⟨callback, named⟩ := entry
    cases callback with
    | some => exact .inl rfl
    | none =>
      cases named with
      | none => exact .inl rfl
      | some current =>
        by_cases own : current.generation = generation
        · refine .inr ⟨?_, _, current, rfl, rfl, rfl, own⟩
          simp [own]
        · refine .inl ?_
          simp [own]

theorem effects_cleanup (listed : r.workers[generation]? = some worker)
    (notified : worker.phase = .notified) : Effects r (r.cleanup generation worker) := by
  have exited := Effect.advanced generation worker .exited r.panicCount listed (.exited notified)
  have streams : r.cleanup generation worker =
      { r.setWorker generation { worker with phase := .exited } with
        streams := (r.cleanup generation worker).streams } := rfl
  rw [streams]
  rcases @cleanup_streams generation worker r with kept | ⟨removed, ⟨_, _⟩, current, present, rfl, rfl, own⟩
  · rw [kept]
    exact .single exited
  · rw [removed]
    refine .tail (.single exited) (.erased worker.streamId (some current) present ?_)
    rintro _ ⟨⟩
    simp only [Registry.isFinished, setWorker, own, Library.Slots.set_self listed]
    rfl

section

variable (found : r.dispatches[call]? = some dispatch)
include found

theorem effects_phase {phase : DispatchPhase} (active : dispatch.phase ≠ .returned)
    (passive : ∀ held, holding phase = some held → holding dispatch.phase = some held) :
    Effects r (r.setPhase call phase) :=
  .single (.moved call dispatch phase r.droppedCount found active passive)

theorem effects_spawn {entry : StreamEntry} {callback : DataChunkCallback} (looking : dispatch.phase = .looking)
    (present : r.streams dispatch.chunk.streamId = some entry) (registered : entry.callback = some callback)
    (free : ∀ worker, entry.worker = some worker → r.isFinished worker.generation = true) :
    Effects r ((r.spawnWorker dispatch.chunk.streamId entry).setPhase call (.sending r.nextGeneration
      ⟨dispatch.chunk, dispatch.senderId, callback, call, r.registrations.length⟩)) := by
  refine .tail (.single (.spawned dispatch.chunk.streamId entry present free)) ?_
  refine .obtained call dispatch ⟨true, r.nextGeneration⟩ callback found looking ?_ rfl
  rw [spawnWorker, ← registered]
  exact Function.update_self ..

theorem effects_workerTx (looking : dispatch.phase = .looking) : Effects r (r.workerTx call dispatch) := by
  have active : dispatch.phase ≠ .returned := by
    rw [looking]
    nofun
  unfold workerTx
  split
  · exact effects_phase found active nofun
  · cases present : r.streams dispatch.chunk.streamId with
    | none => exact effects_phase found active nofun
    | some entry =>
      obtain ⟨callback, worker⟩ := entry
      cases callback with
      | none => exact effects_phase found active nofun
      | some callback =>
        cases worker with
        | none => exact effects_spawn found looking present rfl nofun
        | some worker =>
          dsimp only
          split
          · rename_i finished
            refine effects_spawn found looking present rfl ?_
            rintro _ ⟨⟩
            exact finished
          · split
            · rename_i sender
              exact .single (.obtained call dispatch worker callback found looking present sender)
            · exact effects_phase found active nofun

theorem effects_trySend {full : Bool} (resumed : r.resume call dispatch (.trySend full) = some t) : Effects r t := by
  simp only [resume] at resumed
  cases phase : dispatch.phase with
  | sending generation queued =>
    have active : dispatch.phase ≠ .returned := by
      rw [phase]
      nofun
    have holds : holding dispatch.phase = some (generation, queued) := by
      rw [phase]
      rfl
    simp only [phase] at resumed
    split at resumed
    · cases resumed
    · split at resumed
      · cases resumed
        exact effects_phase found active nofun
      · split at resumed
        · obtain ⟨-, rfl⟩ := Library.Machine.of_guard resumed
          cases dispatch.payloadType with
          | streamLatencyFirst => exact .single (.moved call dispatch .returned _ found active nofun)
          | _ => exact effects_phase found active (fun held same => holds.trans same)
        · obtain ⟨-, rfl⟩ := Library.Machine.of_guard resumed
          exact .single (.pushed call dispatch generation queued found holds)
  | looking | subscribing | waiting | stalled | returned | dropped => simp [phase] at resumed

theorem effects_resume {move : DispatchStep} (resumed : r.resume call dispatch move = some t) : Effects r t := by
  cases move with
  | look =>
    obtain ⟨looking, rfl⟩ := Library.Machine.of_guard resumed
    exact effects_workerTx found looking
  | trySend => exact effects_trySend found resumed
  | subscribe =>
    simp only [resume] at resumed
    split at resumed
    · rename_i phase
      cases resumed
      refine effects_phase found (by rw [phase]; nofun) ?_
      split <;> nofun
    · cases resumed
  | wake =>
    simp only [resume] at resumed
    split at resumed
    · rename_i phase
      split at resumed
      · obtain ⟨-, rfl⟩ := Library.Machine.of_guard resumed
        exact effects_phase found (by rw [phase]; nofun) nofun
      · cases resumed
    · cases resumed
  | giveUp =>
    simp only [resume] at resumed
    split at resumed
    · rename_i phase
      obtain ⟨-, rfl⟩ := Library.Machine.of_guard resumed
      exact effects_phase found (by rw [phase]; nofun) nofun
    · cases resumed
  | send =>
    simp only [resume] at resumed
    split at resumed
    · rename_i generation queued phase
      split at resumed
      · cases resumed
      · split at resumed
        · cases resumed
          exact effects_phase found (by rw [phase]; nofun) nofun
        · obtain ⟨-, rfl⟩ := Library.Machine.of_guard resumed
          exact .single (.pushed call dispatch generation queued found (by rw [phase]; rfl))
    · cases resumed
  | drop =>
    simp only [resume] at resumed
    split at resumed <;> cases resumed
    all_goals
      rename_i phase
      exact effects_phase found (by rw [phase]; nofun) nofun

end

theorem effects_work {move : WorkerStep} (calm : r.cancelled = false)
    (open_ : r.shuttingDown = false) (listed : r.workers[generation]? = some worker)
    (worked : r.work generation worker move = some t) : Effects r t := by
  cases move with
  | recv =>
    simp only [work, Option.ite_none_right_eq_some] at worked
    obtain ⟨receiving, worked⟩ := worked
    cases queue : worker.queue with
    | nil => simp [queue] at worked
    | cons queued rest =>
      simp only [queue, Option.some.injEq] at worked
      subst worked
      exact .single (.received generation worker queued rest listed receiving queue)
  | drained =>
    obtain ⟨⟨receiving, empty, alone⟩, rfl⟩ := Library.Machine.of_guard worked
    exact .single (.advanced generation worker .left r.panicCount listed (.drained receiving empty alone))
  | stop => simp [work, calm] at worked
  | callbackDone =>
    simp only [work] at worked
    split at worked
    · rename_i queued phase
      cases worked
      exact .single (.advanced generation worker .receiving _ listed (.called queued phase))
    · cases worked
  | markFinished =>
    obtain ⟨phase, rfl⟩ := Library.Machine.of_guard worked
    exact .single (.advanced generation worker .finished r.panicCount listed (.marked phase))
  | notify =>
    obtain ⟨phase, rfl⟩ := Library.Machine.of_guard worked
    exact .single (.advanced generation worker .notified r.panicCount listed (.notified phase))
  | cleanup =>
    obtain ⟨phase, rfl⟩ := Library.Machine.of_guard worked
    exact effects_cleanup listed phase
  | abort =>
    simp only [work, open_] at worked
    split at worked
    · cases worked
    · cases worked
    · cases worked

theorem effects_rule {P : Registry → Prop} (preserved : ∀ r t, P r → Effect r t → P t) (held : P r)
    (effects : Effects r t) : P t := by
  induction effects with
  | refl => exact held
  | tail _ effect ih => exact preserved _ _ ih effect

theorem effects_calm (effects : Effects r t) : t.cancelled = r.cancelled ∧ t.shuttingDown = r.shuttingDown := by
  apply effects_rule (P := fun t => t.cancelled = r.cancelled ∧ t.shuttingDown = r.shuttingDown) ?_ ⟨rfl, rfl⟩ effects
  intro _ _ same effect
  cases effect <;> exact same

theorem effects_of_step {action : Action} (calm : r.cancelled = false) (open_ : r.shuttingDown = false)
    (taken : step r action = some t) : Effects r t ∨ t.cancelled = true := by
  cases action with
  | register streamId callback =>
    cases taken
    rw [register, if_neg (by simp [calm, open_])]
    exact .inl (.single (.registered streamId callback))
  | unregister streamId =>
    cases taken
    exact .inl (effects_unregister streamId)
  | dispatch chunk senderId payloadType =>
    cases taken
    exact .inl (.single (.begun chunk senderId payloadType))
  | dispatcher =>
    simp only [step] at taken
    split at taken
    · rename_i found
      exact .inl (effects_resume found taken)
    · cases taken
  | worker =>
    simp only [step] at taken
    split at taken
    · rename_i listed
      exact .inl (effects_work calm open_ listed taken)
    · cases taken
  | cancel =>
    cases taken
    exact .inr rfl
  | drain => simp [step, calm] at taken

theorem cancelled_stays {action : Action} (cancelled : r.cancelled = true) (taken : step r action = some t) :
    t.cancelled = true := by
  cases action with
  | register =>
    cases taken
    unfold register
    split <;> exact cancelled
  | unregister streamId =>
    cases taken
    exact (effects_calm (effects_unregister streamId)).1.trans cancelled
  | dispatch =>
    cases taken
    exact cancelled
  | dispatcher =>
    simp only [step] at taken
    split at taken
    · rename_i found
      exact (effects_calm (effects_resume found taken)).1.trans cancelled
    · cases taken
  | worker generation move =>
    simp only [step] at taken
    split at taken
    · rename_i worker _
      cases move <;> simp only [work] at taken <;> repeat' split at taken
      all_goals cases taken
      all_goals exact cancelled
    · cases taken
  | cancel =>
    cases taken
    rfl
  | drain =>
    rw [step, if_pos cancelled] at taken
    cases taken
    exact cancelled

theorem invariant_rule {Inv : Registry → Prop} {depth : Nat} (initial : Inv (build depth))
    (preserved : ∀ r t, Inv r → Effect r t → Inv t) {s : Registry}
    (reachable : Library.Machine.Reachable step (build depth) s) (calm : s.cancelled = false) : Inv s := by
  have held : s.cancelled = true ∨ (s.cancelled = false ∧ s.shuttingDown = false ∧ Inv s) := by
    apply reachable.invariant
    · exact .inr ⟨rfl, rfl, initial⟩
    · intro before action after held taken
      rcases held with cancelled | ⟨calm, open_, inv⟩
      · exact .inl (cancelled_stays cancelled taken)
      · rcases effects_of_step calm open_ taken with effects | cancelled
        · obtain ⟨same, same'⟩ := effects_calm effects
          exact .inr ⟨same.trans calm, same'.trans open_, effects_rule preserved inv effects⟩
        · exact .inl cancelled
  rcases held with cancelled | ⟨-, -, inv⟩
  · cases calm.symm.trans cancelled
  · exact inv

end Steps

end Actr.Proof.Inbound
