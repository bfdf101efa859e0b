import Actr.Proof.Inbound.DataChunkRegistry

/-! # Workers and senders -/

namespace Actr.Proof.Inbound
open Hyper.Inbound Registry Library

variable {dispatch : Dispatch} {queued : QueuedChunk} {before : WorkerTask} {worker : WorkerTask}

def Open (worker : WorkerTask) : Prop := worker.phase = .receiving ∨ ∃ queued, worker.phase = .running queued

def workerAt (r : Registry) (streamId : String) : Option StreamWorker := (r.streams streamId).bind StreamEntry.worker

structure Wired (r : Registry) : Prop where
  generations : r.nextGeneration = r.workers.length
  table : ∀ streamId entry, workerAt r streamId = some entry →
    ∃ worker, r.workers[entry.generation]? = some worker ∧ worker.streamId = streamId ∧
      (entry.hasTx = true → Open worker)
  live : ∀ (generation : Nat) worker, r.workers[generation]? = some worker → worker.isFinished = false →
    ∃ entry, workerAt r worker.streamId = some entry ∧ entry.generation = generation
  holders : ∀ (call : Nat) dispatch generation queued, r.dispatches[call]? = some dispatch →
    holding dispatch.phase = some (generation, queued) →
    ∃ worker, r.workers[generation]? = some worker ∧ worker.streamId = dispatch.chunk.streamId ∧ Open worker
  closed : ∀ (generation : Nat) worker, r.workers[generation]? = some worker → ¬Open worker → worker.queue = []

theorem open_unfinished (is : Open worker) : worker.isFinished = false := by
  unfold WorkerTask.isFinished
  rcases is with phase | ⟨queued, phase⟩
  · rw [phase]
  · rw [phase]

theorem isFinished_eq {r : Registry} {generation : Nat}
    (listed : r.workers[generation]? = some worker) : r.isFinished generation = worker.isFinished := by
  simp only [Registry.isFinished, listed]

section Preservation

variable {r t : Registry} {generation : Nat} {streamId : String}

theorem open_workerAt (wired : Wired r) (listed : r.workers[generation]? = some worker)
    (is : Open worker) : ∃ entry, workerAt r worker.streamId = some entry ∧ entry.generation = generation :=
  wired.live generation worker listed (open_unfinished is)

section

variable (wired : Wired r) (workers : t.workers = r.workers) (dispatches : t.dispatches = r.dispatches)
  (generations : t.nextGeneration = r.nextGeneration)
include wired workers dispatches generations

theorem wired_streams (same : workerAt t = workerAt r) : Wired t := by
  constructor
  case generations =>
    rw [generations, workers]
    exact wired.generations
  case table =>
    rw [same, workers]
    exact wired.table
  case live =>
    rw [same, workers]
    exact wired.live
  case holders =>
    rw [dispatches, workers]
    exact wired.holders
  case closed =>
    rw [workers]
    exact wired.closed

theorem wired_entry {entry : Option StreamWorker} (change : workerAt t = Function.update (workerAt r) streamId entry)
    (kept : ∀ worker, entry = some worker → ∃ old, workerAt r streamId = some old ∧ worker.generation = old.generation ∧ worker.hasTx = false)
    (gone : entry = none → ∀ worker, workerAt r streamId = some worker → r.isFinished worker.generation = true) :
    Wired t := by
  constructor
  case generations =>
    rw [generations, workers]
    exact wired.generations
  case table =>
    intro other worker present
    rw [change] at present
    by_cases same : other = streamId
    · subst same
      rw [Function.update_self] at present
      obtain ⟨old, was, generation, without⟩ := kept worker present
      obtain ⟨task, listed, stream, -⟩ := wired.table other old was
      rw [workers, generation]
      refine ⟨task, listed, stream, ?_⟩
      rw [without]
      nofun
    · rw [Function.update_of_ne same] at present
      rw [workers]
      exact wired.table other worker present
  case live =>
    intro generation task listed unfinished
    rw [workers] at listed
    obtain ⟨worker, present, is⟩ := wired.live generation task listed unfinished
    rw [change]
    by_cases same : task.streamId = streamId
    · rw [same, Function.update_self]
      rw [same] at present
      cases entry with
      | none =>
        have finished := gone rfl worker present
        rw [is, isFinished_eq listed, unfinished] at finished
        cases finished
      | some new =>
        obtain ⟨old, was, equal, -⟩ := kept new rfl
        cases present.symm.trans was
        exact ⟨new, rfl, equal.trans is⟩
    · rw [Function.update_of_ne same]
      exact ⟨worker, present, is⟩
  case holders =>
    rw [dispatches, workers]
    exact wired.holders
  case closed =>
    rw [workers]
    exact wired.closed

end

theorem workerAt_update {entry : Option StreamEntry} {worker : Option StreamWorker}
    (streams : t.streams = Function.update r.streams streamId entry)
    (named : entry.bind StreamEntry.worker = worker) : workerAt t = Function.update (workerAt r) streamId worker := by
  subst named
  funext other
  unfold workerAt
  rw [streams]
  by_cases same : other = streamId
  · subst same
    rw [Function.update_self, Function.update_self]
  · rw [Function.update_of_ne same, Function.update_of_ne same]

theorem wired_dispatches (wired : Wired r) {call : Nat} {phase : DispatchPhase}
    (sender : ∀ dispatch generation queued, r.dispatches[call]? = some dispatch →
      holding phase = some (generation, queued) →
      ∃ worker, r.workers[generation]? = some worker ∧ worker.streamId = dispatch.chunk.streamId ∧ Open worker) :
    Wired (r.setPhase call phase) := by
  refine { wired with holders := ?_ }
  intro number dispatch generation queued listed holds
  obtain ⟨before, old, ⟨rfl, rfl⟩ | ⟨-, rfl⟩⟩ := Slots.of_modify listed
  · exact sender before generation queued old holds
  · exact wired.holders number dispatch generation queued old holds

theorem holdsTx_of_holding
    (holds : holding dispatch.phase = some (generation, queued)) : dispatch.holdsTx generation = true := by
  unfold Dispatch.holdsTx
  cases phase : dispatch.phase with
  | sending number chunk | stalled number chunk =>
    rw [phase] at holds
    cases holds
    exact BEq.rfl
  | _ =>
    rw [phase] at holds
    cases holds

theorem no_sender (alone : r.hasSender generation worker = false) :
    (∀ (call : Nat) dispatch queued, r.dispatches[call]? = some dispatch →
      holding dispatch.phase ≠ some (generation, queued)) ∧
    ∀ entry, workerAt r worker.streamId = some entry → entry.generation = generation → entry.hasTx = false := by
  obtain ⟨dispatches, table⟩ := Bool.or_eq_false_iff.mp alone
  constructor
  · intro call dispatch queued listed holds
    exact List.any_eq_false.mp dispatches dispatch (List.mem_of_getElem? listed) (holdsTx_of_holding holds)
  · intro entry present same
    obtain ⟨stream, stored, named⟩ := Option.bind_eq_some_iff.mp present
    cases has : entry.hasTx with
    | false => rfl
    | true =>
      obtain ⟨hasTx, number⟩ := entry
      cases has
      cases same
      simp [stored, named] at table

theorem wired_worker {after : WorkerTask} (wired : Wired r) (listed : r.workers[generation]? = some before)
    (stream : after.streamId = before.streamId) (unfinished : after.isFinished = false → before.isFinished = false)
    (leaves : Open before → ¬Open after → r.hasSender generation before = false)
    (empty : ¬Open after → after.queue = []) : Wired (r.setWorker generation after) := by
  constructor
  case generations => exact wired.generations.trans (List.length_set).symm
  case table =>
    intro streamId entry present
    obtain ⟨worker, found, rfl, sender⟩ := wired.table streamId entry present
    rcases Slots.kept_or_set listed found with ⟨rfl, rfl⟩ | still
    · refine ⟨after, Slots.set_self listed, stream, ?_⟩
      intro has
      by_contra closed
      cases ((no_sender (leaves (sender has) closed)).2 entry present rfl).symm.trans has
    · exact ⟨worker, still, rfl, sender⟩
  case live =>
    intro number worker found lives
    rcases Slots.of_set found with ⟨rfl, rfl⟩ | ⟨-, old⟩
    · rw [stream]
      exact wired.live number before listed (unfinished lives)
    · exact wired.live number worker old lives
  case holders =>
    intro call dispatch number queued member holds
    obtain ⟨worker, found, its, is⟩ := wired.holders call dispatch number queued member holds
    rcases Slots.kept_or_set listed found with ⟨rfl, rfl⟩ | still
    · refine ⟨after, Slots.set_self listed, stream.trans its, ?_⟩
      by_contra closed
      exact (no_sender (leaves is closed)).1 call dispatch queued member holds
    · exact ⟨worker, still, its, is⟩
  case closed =>
    intro number worker found closed
    rcases Slots.of_set found with ⟨rfl, rfl⟩ | ⟨-, old⟩
    · exact empty closed
    · exact wired.closed number worker old closed

theorem wired_spawn {entry : StreamEntry} (wired : Wired r) (present : r.streams streamId = some entry)
    (free : ∀ worker, entry.worker = some worker → r.isFinished worker.generation = true) :
    Wired (r.spawnWorker streamId entry) := by
  have change : workerAt (r.spawnWorker streamId entry) =
      Function.update (workerAt r) streamId (some ⟨true, r.nextGeneration⟩) := workerAt_update rfl rfl
  have newest : (r.spawnWorker streamId entry).workers[r.nextGeneration]? = some ⟨streamId, [], .receiving⟩ := by
    rw [wired.generations]
    exact List.getElem?_concat_length
  constructor
  case generations => simp [spawnWorker, wired.generations]
  case table =>
    intro other worker found
    rw [change] at found
    by_cases same : other = streamId
    · subst same
      rw [Function.update_self] at found
      cases found
      exact ⟨_, newest, rfl, fun _ => .inl rfl⟩
    · rw [Function.update_of_ne same] at found
      obtain ⟨task, listed, rest⟩ := wired.table other worker found
      exact ⟨task, Slots.snoc listed, rest⟩
  case live =>
    intro generation task listed unfinished
    rw [change]
    rcases Slots.of_snoc listed with old | ⟨rfl, rfl⟩
    · obtain ⟨worker, found, is⟩ := wired.live generation task old unfinished
      by_cases same : task.streamId = streamId
      · rw [same] at found
        simp only [workerAt, present, Option.bind_some] at found
        have finished := free worker found
        rw [is, isFinished_eq old, unfinished] at finished
        cases finished
      · rw [Function.update_of_ne same]
        exact ⟨worker, found, is⟩
    · rw [Function.update_self]
      exact ⟨_, rfl, wired.generations⟩
  case holders =>
    intro call dispatch generation queued listed holds
    obtain ⟨task, found, rest⟩ := wired.holders call dispatch generation queued listed holds
    exact ⟨task, Slots.snoc found, rest⟩
  case closed =>
    intro generation task listed closed
    rcases Slots.of_snoc listed with old | ⟨-, rfl⟩
    · exact wired.closed generation task old closed
    · rfl

theorem wired_advanced {phase : WorkerPhase} (wired : Wired r)
    (listed : r.workers[generation]? = some worker) (advances : Advances r generation worker phase) :
    Wired (r.setWorker generation { worker with phase := phase }) := by
  cases advances with
  | called queued running =>
    have is : Open { worker with phase := .receiving } := .inl rfl
    apply wired_worker wired listed
    · rfl
    · intro _
      exact open_unfinished (.inr ⟨queued, running⟩)
    · exact fun _ closed => absurd is closed
    · exact fun closed => absurd is closed
  | drained receiving empty alone =>
    apply wired_worker wired listed
    · rfl
    · intro _
      exact open_unfinished (.inl receiving)
    · exact fun _ _ => alone
    · exact fun _ => empty
  | marked left | notified left | exited left =>
    have closed : ¬Open worker := by
      rintro (phase | ⟨_, phase⟩) <;> cases left.symm.trans phase
    apply wired_worker wired listed
    · rfl
    · nofun
    · exact fun is => absurd is closed
    · exact fun _ => wired.closed generation worker listed closed

theorem wired_open {after : WorkerTask} (wired : Wired r) (listed : r.workers[generation]? = some before)
    (stream : after.streamId = before.streamId) (was : Open before) (is : Open after) :
    Wired (r.setWorker generation after) := by
  apply wired_worker wired listed stream
  · intro _
    exact open_unfinished was
  · exact fun _ closed => absurd is closed
  · exact fun closed => absurd is closed

theorem wired_pushed {call : Nat} (wired : Wired r)
    (found : r.dispatches[call]? = some dispatch) (holds : holding dispatch.phase = some (generation, queued)) :
    Wired (r.push call generation queued) := by
  obtain ⟨worker, listed, -, is⟩ := wired.holders call dispatch generation queued found holds
  have returned : Wired (r.setPhase call .returned) := by
    apply wired_dispatches wired
    intro _ _ _ _ sending
    cases sending
  have moved : Wired ((r.setPhase call .returned).setWorker generation
      { worker with queue := worker.queue ++ [queued] }) := by
    apply wired_open returned listed
    · rfl
    · exact is
    · exact is
  unfold push
  rw [Slots.modify_eq_set listed]
  exact { moved with }

theorem wired_step (wired : Wired r) (effect : Effect r t) : Wired t := by
  cases effect with
  | registered streamId =>
    have same : ((r.streams streamId).getD ⟨none, none⟩).worker = workerAt r streamId := by
      unfold workerAt
      cases r.streams streamId <;> rfl
    refine wired_streams wired rfl rfl rfl (Eq.trans ?_ (Function.update_eq_self streamId (workerAt r)))
    apply workerAt_update
    · rfl
    · exact same
  | unknown => exact wired_streams wired rfl rfl rfl rfl
  | silenced streamId entry present =>
    have was : workerAt r streamId = entry.worker := by simp only [workerAt, present, Option.bind_some]
    refine wired_entry wired rfl rfl rfl (workerAt_update rfl rfl) ?_ ?_
    · intro _ named
      obtain ⟨worker, is, rfl⟩ := Option.map_eq_some_iff.mp named
      exact ⟨worker, was.trans is, rfl, rfl⟩
    · intro none worker found
      cases (Option.map_eq_none_iff.mp none).symm.trans (was.symm.trans found)
  | erased streamId worker present free =>
    refine wired_entry wired rfl rfl rfl (workerAt_update rfl rfl) nofun ?_
    intro _ entry found
    simp only [workerAt, present, Option.bind_some] at found
    exact free entry found
  | begun =>
    refine { wired with holders := ?_ }
    intro call dispatch generation queued listed holds
    rcases Slots.of_snoc listed with old | ⟨-, rfl⟩
    · exact wired.holders call dispatch generation queued old holds
    · cases holds
  | moved call dispatch phase droppedCount found active passive =>
    have moved : Wired (r.setPhase call phase) := by
      apply wired_dispatches wired
      intro before generation queued listed holds
      cases found.symm.trans listed
      exact wired.holders call dispatch generation queued found (passive _ holds)
    exact { moved with }
  | obtained call dispatch worker callback found looking present sender =>
    apply wired_dispatches wired
    intro before generation queued listed holds
    cases found.symm.trans listed
    cases holds
    have named : workerAt r dispatch.chunk.streamId = some worker := by
      simp only [workerAt, present, Option.bind_some]
    obtain ⟨task, exists_, stream, is⟩ := wired.table _ worker named
    exact ⟨task, exists_, stream, is sender⟩
  | spawned streamId entry present free => exact wired_spawn wired present free
  | pushed call dispatch generation queued found holds => exact wired_pushed wired found holds
  | received generation worker queued rest listed receiving queue =>
    have moved : Wired (r.setWorker generation { worker with queue := rest, phase := .running queued }) := by
      apply wired_open wired listed
      · rfl
      · exact .inl receiving
      · exact .inr ⟨queued, rfl⟩
    exact { moved with }
  | advanced generation worker phase panicCount listed advances =>
    have moved := wired_advanced wired listed advances
    exact { moved with }

theorem wired_build (depth : Nat) : Wired (build depth) := by
  constructor
  case generations => rfl
  case table =>
    intro streamId entry present
    cases present
  case live | closed =>
    intro generation worker listed
    cases listed
  case holders =>
    intro call dispatch generation queued listed
    cases listed

end Preservation

end Actr.Proof.Inbound
