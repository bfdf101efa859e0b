import Actr.Proof.Inbound.Callbacks

/-! # Chunks are delivered in the order of acceptance -/

namespace Actr.Proof.Inbound
open Hyper.Inbound Registry Library Machine

def onStream (streamId : String) (chunks : List QueuedChunk) : List QueuedChunk :=
  chunks.filter fun queued => queued.chunk.streamId = streamId

def queueOf (workers : List WorkerTask) : Option StreamWorker → List QueuedChunk
  | none => []
  | some entry =>
    match workers[entry.generation]? with
    | some worker => worker.queue
    | none => []

def backlog (r : Registry) (streamId : String) : List QueuedChunk := queueOf r.workers (workerAt r streamId)

structure Ordered (r : Registry) : Prop where
  queued : ∀ (generation : Nat) worker chunk, r.workers[generation]? = some worker → chunk ∈ worker.queue →
    chunk.chunk.streamId = worker.streamId
  fifo : ∀ streamId, onStream streamId r.accepted = onStream streamId r.delivered ++ backlog r streamId

theorem onStream_snoc (streamId : String) (chunks : List QueuedChunk) (queued : QueuedChunk) :
    onStream streamId (chunks ++ [queued]) =
      if queued.chunk.streamId = streamId then onStream streamId chunks ++ [queued]
      else onStream streamId chunks := by
  unfold onStream
  by_cases same : queued.chunk.streamId = streamId <;> simp [same]

section Backlog

variable {r : Registry} {streamId : String} {generation : Nat} {worker : WorkerTask}

theorem queueOf_listed {workers : List WorkerTask} {entry : StreamWorker}
    (listed : workers[entry.generation]? = some worker) : queueOf workers (some entry) = worker.queue := by
  simp only [queueOf, listed]

theorem finished_closed (finished : worker.isFinished = true) : ¬Open worker := by
  intro is
  rw [open_unfinished is] at finished
  cases finished

theorem backlog_free (wired : Wired r)
    (free : ∀ entry, workerAt r streamId = some entry → r.isFinished entry.generation = true) :
    backlog r streamId = [] := by
  unfold backlog
  cases named : workerAt r streamId with
  | none => rfl
  | some entry =>
    obtain ⟨task, listed, -, -⟩ := wired.table streamId entry named
    have finished := free entry named
    rw [isFinished_eq listed] at finished
    rw [queueOf_listed listed]
    exact wired.closed entry.generation task listed (finished_closed finished)

theorem backlog_open (wired : Wired r) (listed : r.workers[generation]? = some worker) (is : Open worker) :
    backlog r worker.streamId = worker.queue := by
  obtain ⟨entry, named, rfl⟩ := open_workerAt wired listed is
  unfold backlog
  rw [named, queueOf_listed listed]

theorem backlog_setWorker {after : WorkerTask} (wired : Wired r) (listed : r.workers[generation]? = some worker)
    (kept : after.queue = worker.queue ∨ streamId ≠ worker.streamId) :
    queueOf (r.workers.set generation after) (workerAt r streamId) = backlog r streamId := by
  unfold backlog
  cases named : workerAt r streamId with
  | none => rfl
  | some entry =>
    obtain ⟨task, found, stream, -⟩ := wired.table streamId entry named
    rw [queueOf_listed found]
    rcases Slots.kept_or_set listed found with ⟨rfl, rfl⟩ | still
    · rw [queueOf_listed (Slots.set_self listed)]
      rcases kept with equal | different
      · exact equal
      · exact absurd stream.symm different
    · exact queueOf_listed still

theorem backlog_own {after : WorkerTask} (wired : Wired r) (listed : r.workers[generation]? = some worker)
    (is : Open worker) : queueOf (r.workers.set generation after) (workerAt r worker.streamId) = after.queue := by
  obtain ⟨entry, named, rfl⟩ := open_workerAt wired listed is
  rw [named]
  exact queueOf_listed (Slots.set_self listed)

end Backlog

section Preservation

variable {r t : Registry} {generation : Nat} {worker : WorkerTask}

theorem ordered_frame (ordered : Ordered r) (workers : t.workers = r.workers) (accepted : t.accepted = r.accepted)
    (delivered : t.delivered = r.delivered) (same : ∀ streamId, backlog t streamId = backlog r streamId) :
    Ordered t := by
  constructor
  · rw [workers]
    exact ordered.queued
  · intro streamId
    rw [accepted, delivered, same streamId]
    exact ordered.fifo streamId

theorem ordered_entry {streamId : String} {entry : Option StreamWorker} (ordered : Ordered r)
    (workers : t.workers = r.workers) (accepted : t.accepted = r.accepted) (delivered : t.delivered = r.delivered)
    (change : workerAt t = Function.update (workerAt r) streamId entry)
    (same : queueOf r.workers entry = backlog r streamId) : Ordered t := by
  apply ordered_frame ordered workers accepted delivered
  intro other
  unfold backlog
  rw [change, workers]
  by_cases equal : other = streamId
  · subst equal
    rw [Function.update_self]
    exact same
  · rw [Function.update_of_ne equal]

theorem ordered_setWorker {after : WorkerTask} (wired : Wired r) (ordered : Ordered r)
    (listed : r.workers[generation]? = some worker) (stream : after.streamId = worker.streamId)
    (queue : after.queue = worker.queue) : Ordered (r.setWorker generation after) := by
  constructor
  · intro number task chunk found member
    rcases Slots.of_set found with ⟨rfl, rfl⟩ | ⟨-, old⟩
    · rw [queue] at member
      rw [stream]
      exact ordered.queued number worker chunk listed member
    · exact ordered.queued number task chunk old member
  · intro streamId
    have same := @backlog_setWorker r streamId generation worker after wired listed (.inl queue)
    exact (ordered.fifo streamId).trans (congrArg _ same.symm)

theorem ordered_spawn {streamId : String} {entry : StreamEntry} (wired : Wired r) (ordered : Ordered r)
    (present : r.streams streamId = some entry)
    (free : ∀ worker, entry.worker = some worker → r.isFinished worker.generation = true) :
    Ordered (r.spawnWorker streamId entry) := by
  have change : workerAt (r.spawnWorker streamId entry) =
      Function.update (workerAt r) streamId (some ⟨true, r.nextGeneration⟩) := workerAt_update rfl rfl
  constructor
  · intro generation task chunk listed member
    rcases Slots.of_snoc listed with old | ⟨-, rfl⟩
    · exact ordered.queued generation task chunk old member
    · cases member
  · intro other
    have same : backlog (r.spawnWorker streamId entry) other = backlog r other := by
      unfold backlog
      rw [change]
      by_cases equal : other = streamId
      · subst equal
        have nothing : backlog r other = [] := by
          apply backlog_free wired
          intro worker named
          simp only [workerAt, present, Option.bind_some] at named
          exact free worker named
        have newest : (r.spawnWorker other entry).workers[r.nextGeneration]? = some ⟨other, [], .receiving⟩ := by
          rw [wired.generations]
          exact List.getElem?_concat_length
        rw [Function.update_self, queueOf_listed newest]
        exact nothing.symm
      · rw [Function.update_of_ne equal]
        cases named : workerAt r other with
        | none => rfl
        | some worker =>
          obtain ⟨task, listed, -, -⟩ := wired.table other worker named
          rw [queueOf_listed listed]
          exact queueOf_listed (Slots.snoc listed)
    rw [same]
    exact ordered.fifo other

theorem ordered_pushed {call : Nat} {dispatch : Dispatch} {queued : QueuedChunk} (wired : Wired r)
    (carries : Carries r) (ordered : Ordered r) (found : r.dispatches[call]? = some dispatch)
    (holds : holding dispatch.phase = some (generation, queued)) : Ordered (r.push call generation queued) := by
  -- A push makes the accepted chunks and the backlog of the stream longer by the same chunk.
  obtain ⟨worker, listed, stream, is⟩ := wired.holders call dispatch generation queued found holds
  have mine : queued.chunk.streamId = worker.streamId := by
    rw [(carries.held call dispatch generation queued found holds).chunk]
    exact stream.symm
  have workers : (r.push call generation queued).workers =
      r.workers.set generation { worker with queue := worker.queue ++ [queued] } := Slots.modify_eq_set listed
  constructor
  · intro number task chunk stored member
    rw [workers] at stored
    rcases Slots.of_set stored with ⟨rfl, rfl⟩ | ⟨-, old⟩
    · rcases Slots.mem_snoc member with old | rfl
      · exact ordered.queued number worker chunk listed old
      · exact mine
    · exact ordered.queued number task chunk old member
  · intro streamId
    change onStream streamId (r.accepted ++ [queued]) =
      onStream streamId r.delivered ++ queueOf (r.push call generation queued).workers (workerAt r streamId)
    rw [onStream_snoc, workers]
    by_cases same : streamId = worker.streamId
    · subst same
      rw [if_pos mine, backlog_own wired listed is, ordered.fifo, backlog_open wired listed is, List.append_assoc]
    · rw [if_neg (fun equal => same (equal.symm.trans mine)), backlog_setWorker wired listed (.inr same)]
      exact ordered.fifo streamId

theorem ordered_received {queued : QueuedChunk} {rest : List QueuedChunk} (wired : Wired r) (ordered : Ordered r)
    (listed : r.workers[generation]? = some worker) (receiving : worker.phase = .receiving)
    (queue : worker.queue = queued :: rest) :
    Ordered { r.setWorker generation { worker with queue := rest, phase := .running queued } with
      delivered := r.delivered ++ [queued] } := by
  -- A receive moves the head of the backlog to the delivered chunks.
  have is : Open worker := .inl receiving
  have mine : queued.chunk.streamId = worker.streamId := by
    apply ordered.queued generation worker queued listed
    rw [queue]
    exact List.mem_cons_self
  constructor
  · intro number task chunk stored member
    rcases Slots.of_set stored with ⟨rfl, rfl⟩ | ⟨-, old⟩
    · apply ordered.queued number worker chunk listed
      rw [queue]
      exact List.mem_cons_of_mem queued member
    · exact ordered.queued number task chunk old member
  · intro streamId
    change onStream streamId r.accepted = onStream streamId (r.delivered ++ [queued]) ++
      queueOf (r.workers.set generation { worker with queue := rest, phase := .running queued }) (workerAt r streamId)
    rw [onStream_snoc]
    by_cases same : streamId = worker.streamId
    · subst same
      rw [if_pos mine, backlog_own wired listed is, ordered.fifo, backlog_open wired listed is, queue,
        List.append_assoc]
      rfl
    · rw [if_neg (fun equal => same (equal.symm.trans mine)), backlog_setWorker wired listed (.inr same)]
      exact ordered.fifo streamId

theorem ordered_step (wired : Wired r) (carries : Carries r) (ordered : Ordered r) (effect : Effect r t) :
    Ordered t := by
  cases effect with
  | registered streamId =>
    refine ordered_entry ordered rfl rfl rfl (workerAt_update rfl rfl) ?_
    unfold backlog workerAt
    cases r.streams streamId <;> rfl
  | unknown | begun | moved | obtained => exact { ordered with }
  | silenced streamId entry present =>
    refine ordered_entry ordered rfl rfl rfl (workerAt_update rfl rfl) ?_
    unfold backlog
    simp only [workerAt, present, Option.bind_some]
    cases entry.worker <;> rfl
  | erased streamId worker present free =>
    refine ordered_entry ordered rfl rfl rfl (workerAt_update rfl rfl) ?_
    apply Eq.symm
    apply backlog_free wired
    intro entry named
    simp only [workerAt, present, Option.bind_some] at named
    exact free entry named
  | spawned streamId entry present free => exact ordered_spawn wired ordered present free
  | pushed call dispatch generation queued found holds => exact ordered_pushed wired carries ordered found holds
  | received generation worker queued rest listed receiving queue =>
    exact ordered_received wired ordered listed receiving queue
  | advanced generation worker phase panicCount listed =>
    have advanced : Ordered (r.setWorker generation { worker with phase := phase }) := by
      apply ordered_setWorker wired ordered listed
      · rfl
      · rfl
    exact { advanced with }

structure Invariant (r : Registry) : Prop where
  wired : Wired r
  carries : Carries r
  ordered : Ordered r

theorem invariant_reachable {depth : Nat} (reachable : Reachable step (build depth) r) (calm : r.cancelled = false) :
    Invariant r := by
  refine invariant_rule ?_ ?_ reachable calm
  · refine ⟨wired_build depth, carries_build depth, ?_⟩
    constructor
    · intro generation worker chunk listed
      cases listed
    · intro streamId
      rfl
  · intro before after inv effect
    exact ⟨wired_step inv.wired effect, carries_step inv.carries effect,
      ordered_step inv.wired inv.carries inv.ordered effect⟩

end Preservation

end Actr.Proof.Inbound
