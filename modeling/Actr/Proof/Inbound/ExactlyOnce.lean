import Actr.Proof.Inbound.Delivery

/-!
# Streams are FIFO and exactly once across worker generations
-/

namespace Actr.Proof.Inbound
open Actr.Protocol Hyper.Inbound Registry Library Machine

variable {queued : QueuedChunk} {worker : WorkerTask}

def WorkerOnly (actions : List Action) : Prop := ∀ action ∈ actions, ∃ generation move, action = .worker generation move

section Draining

variable {r t : Registry} {generation : Nat} {streamId : String}

theorem step_callbackDone {queue : List QueuedChunk}
    (listed : r.workers[generation]? = some ⟨streamId, queue, .running queued⟩) :
    ∃ t, step r (.worker generation (.callbackDone false)) = some t ∧
      t.workers[generation]? = some ⟨streamId, queue, .receiving⟩ ∧ t.delivered = r.delivered ∧
      t.accepted = r.accepted := by
  refine ⟨r.setWorker generation ⟨streamId, queue, .receiving⟩, ?_, Slots.set_self listed, rfl, rfl⟩
  simp only [step, listed, work]
  rfl

theorem step_recv {rest : List QueuedChunk}
    (listed : r.workers[generation]? = some ⟨streamId, queued :: rest, .receiving⟩) :
    ∃ t, step r (.worker generation .recv) = some t ∧
      t.workers[generation]? = some ⟨streamId, rest, .running queued⟩ ∧ t.delivered = r.delivered ++ [queued] ∧
      t.accepted = r.accepted := by
  refine ⟨{ r.setWorker generation ⟨streamId, rest, .running queued⟩ with delivered := r.delivered ++ [queued] },
    ?_, Slots.set_self listed, rfl, rfl⟩
  simp only [step, listed, work, if_true]

theorem workerOnly_cons {move : WorkerStep} {actions : List Action} (only : WorkerOnly actions) :
    WorkerOnly (.worker generation move :: actions) := by
  intro action member
  rcases List.mem_cons.mp member with rfl | member
  · exact ⟨generation, move, rfl⟩
  · exact only action member

theorem drain_queue (queue : List QueuedChunk)
    (listed : r.workers[generation]? = some ⟨streamId, queue, .receiving⟩) :
    ∃ actions t, WorkerOnly actions ∧ exec step r actions = some t ∧ t.delivered = r.delivered ++ queue ∧
      t.accepted = r.accepted := by
  induction queue generalizing r with
  | nil => exact ⟨[], r, nofun, rfl, (List.append_nil _).symm, rfl⟩
  | cons queued rest ih =>
    obtain ⟨called, received, running, grown, same⟩ := step_recv listed
    obtain ⟨idle, returned, receiving, kept, same'⟩ := step_callbackDone running
    obtain ⟨actions, t, only, run, delivered, accepted⟩ := ih receiving
    refine ⟨_, t, workerOnly_cons (workerOnly_cons only),
      exec_cons.mpr ⟨called, received, exec_cons.mpr ⟨idle, returned, run⟩⟩, ?_, ?_⟩
    · rw [delivered, kept, grown, List.append_assoc]
      rfl
    · rw [accepted, same', same]

theorem drain_worker (listed : r.workers[generation]? = some worker) (is : Open worker) :
    ∃ actions t, WorkerOnly actions ∧ exec step r actions = some t ∧ t.delivered = r.delivered ++ worker.queue ∧
      t.accepted = r.accepted := by
  obtain ⟨streamId, queue, phase⟩ := worker
  rcases is with rfl | ⟨queued, rfl⟩
  · exact drain_queue queue listed
  · obtain ⟨idle, returned, receiving, kept, same⟩ := step_callbackDone listed
    obtain ⟨actions, t, only, run, delivered, accepted⟩ := drain_queue queue receiving
    refine ⟨_, t, workerOnly_cons only, exec_cons.mpr ⟨idle, returned, run⟩, ?_, ?_⟩
    · rw [delivered, kept]
    · rw [accepted, same]

end Draining

section Results

variable {r : Registry}

theorem single_worker (wired : Wired r) {first second : Nat} {other : WorkerTask}
    (listed : r.workers[first]? = some worker) (found : r.workers[second]? = some other)
    (same : worker.streamId = other.streamId) (lives : worker.isFinished = false)
    (living : other.isFinished = false) : first = second := by
  obtain ⟨entry, named, rfl⟩ := wired.live first worker listed lives
  obtain ⟨entry', named', rfl⟩ := wired.live second other found living
  rw [same] at named
  cases named.symm.trans named'
  rfl

theorem backlog_worker (wired : Wired r) (streamId : String) :
    backlog r streamId = [] ∨ ∃ (generation : Nat) (worker : WorkerTask),
      r.workers[generation]? = some worker ∧ worker.streamId = streamId ∧ Open worker ∧
        worker.queue = backlog r streamId := by
  unfold backlog
  cases named : workerAt r streamId with
  | none => exact .inl rfl
  | some entry =>
    obtain ⟨worker, listed, stream, -⟩ := wired.table streamId entry named
    rw [queueOf_listed listed]
    by_cases is : Open worker
    · exact .inr ⟨entry.generation, worker, listed, stream, is, rfl⟩
    · exact .inl (wired.closed entry.generation worker listed is)

theorem drain_stream (inv : Invariant r) (streamId : String) :
    ∃ actions t, WorkerOnly actions ∧ exec step r actions = some t ∧ t.accepted = r.accepted ∧
      onStream streamId t.delivered = onStream streamId r.accepted := by
  rw [inv.ordered.fifo streamId]
  rcases backlog_worker inv.wired streamId with nothing | ⟨generation, worker, listed, rfl, is, queue⟩
  · exact ⟨[], r, nofun, rfl, rfl, by rw [nothing, List.append_nil]⟩
  · obtain ⟨actions, t, only, run, delivered, accepted⟩ := drain_worker listed is
    refine ⟨actions, t, only, run, accepted, ?_⟩
    have all : onStream worker.streamId worker.queue = worker.queue := by
      apply List.filter_eq_self.mpr
      intro chunk member
      exact decide_eq_true (inv.ordered.queued generation worker chunk listed member)
    rw [delivered, onStream, List.filter_append, ← queue]
    exact congrArg (onStream worker.streamId r.delivered ++ ·) all

theorem delivered_accepted (ordered : Ordered r) (member : queued ∈ r.delivered) : queued ∈ r.accepted := by
  have mine : queued ∈ onStream queued.chunk.streamId r.delivered :=
    List.mem_filter.mpr ⟨member, decide_eq_true rfl⟩
  have accepted : queued ∈ onStream queued.chunk.streamId r.accepted := by
    rw [ordered.fifo]
    exact List.mem_append_left _ mine
  exact (List.mem_filter.mp accepted).1

theorem delivered_once (inv : Invariant r) (streamId : String) :
    ((onStream streamId r.delivered).map QueuedChunk.ticket).Nodup := by
  have once : ((onStream streamId r.accepted).map QueuedChunk.ticket).Nodup :=
    inv.carries.tickets.sublist (List.filter_sublist.map _)
  rw [inv.ordered.fifo streamId] at once
  exact once.sublist ((List.sublist_append_left _ _).map _)

theorem worker_streams {t : Registry} {generation : Nat} {move : WorkerStep}
    (taken : step r (.worker generation move) = some t) (streamId : String) :
    t.streams streamId = r.streams streamId ∨
      ∃ entry current, r.streams streamId = some entry ∧ entry.callback = none ∧
        entry.worker = some current ∧ current.generation = generation := by
  simp only [step] at taken
  split at taken
  · rename_i worker listed
    cases move with
    | cleanup =>
      obtain ⟨-, rfl⟩ := of_guard taken
      rcases @cleanup_streams generation worker r with kept | ⟨removed, entry, current, rest⟩
      · exact .inl (congrFun kept streamId)
      · by_cases same : streamId = worker.streamId
        · subst same
          exact .inr ⟨entry, current, rest⟩
        · rw [removed, Function.update_of_ne same]
          exact .inl rfl
    | _ =>
      simp only [work] at taken
      repeat' split at taken
      all_goals cases taken
      all_goals exact .inl rfl
  · cases taken

end Results

theorem streams_fifo_exactly_once {depth : Nat} {r : Registry} (reachable : Reachable step (build depth) r)
    (calm : r.cancelled = false) :
    (∀ (first second : Nat) worker other, r.workers[first]? = some worker → r.workers[second]? = some other →
      worker.streamId = other.streamId → worker.isFinished = false → other.isFinished = false →
      first = second) ∧
    (∀ streamId, ∃ waiting, onStream streamId r.accepted = onStream streamId r.delivered ++ waiting ∧
      (waiting = [] ∨ ∃ (generation : Nat) (worker : WorkerTask), r.workers[generation]? = some worker ∧
        worker.streamId = streamId ∧ Open worker ∧ worker.queue = waiting) ∧
      ((onStream streamId r.delivered).map QueuedChunk.ticket).Nodup ∧
      ∃ actions t, WorkerOnly actions ∧ exec step r actions = some t ∧ t.accepted = r.accepted ∧
        onStream streamId t.delivered = onStream streamId r.accepted) ∧
    (∀ queued ∈ r.delivered, queued ∈ r.accepted) ∧
    (∀ queued ∈ r.accepted, ∃ dispatch, r.dispatches[queued.ticket]? = some dispatch ∧
      Carried r.registrations queued.ticket dispatch queued) ∧
    (∀ generation move t, step r (.worker generation move) = some t → ∀ streamId entry current,
      r.streams streamId = some entry → entry.worker = some current → current.generation ≠ generation →
      t.streams streamId = r.streams streamId) := by
  have inv := invariant_reachable reachable calm
  refine ⟨?_, ?_, ?_, ?_, ?_⟩
  · intro first second worker other listed found same lives living
    exact single_worker inv.wired listed found same lives living
  · intro streamId
    exact ⟨backlog r streamId, inv.ordered.fifo streamId, backlog_worker inv.wired streamId,
      delivered_once inv streamId, drain_stream inv streamId⟩
  · intro queued member
    exact delivered_accepted inv.ordered member
  · intro queued member
    obtain ⟨dispatch, listed, -, carried⟩ := inv.carries.accepted queued member
    exact ⟨dispatch, listed, carried⟩
  · intro generation move t taken streamId entry current present named newer
    rcases worker_streams taken streamId with kept | ⟨entry', current', present', -, named', own⟩
    · exact kept
    · cases present.symm.trans present'
      cases named.symm.trans named'
      exact absurd own newer

def chunkOf (sequence : Nat) : DataChunk := ⟨"s", sequence, []⟩

def peer : ActrId := ⟨⟨1⟩, 7, ⟨"acme", "docs", "1.0.0"⟩⟩

def reRegistered : List Action :=
  [.register "s" 1, .dispatch (chunkOf 0) peer .streamReliable, .dispatcher 0 .look, .dispatcher 0 (.trySend false),
    .worker 0 .recv, .unregister "s", .register "s" 2, .dispatch (chunkOf 1) peer .streamReliable,
    .dispatcher 1 .look, .worker 0 (.callbackDone false), .worker 0 .drained, .dispatcher 1 .subscribe,
    .worker 0 .markFinished, .worker 0 .notify, .dispatcher 1 .wake, .dispatcher 1 .look,
    .dispatcher 1 (.trySend false), .worker 0 .cleanup, .worker 1 .recv]

theorem streams_fifo_exactly_once_reRegistered : ∃ r, Reachable step (build 64) r ∧ r.cancelled = false ∧
    r.delivered.map (fun queued => (queued.chunk.sequence, queued.callback)) = [(0, 1), (1, 2)] ∧
    ∀ queued ∈ r.delivered, queued ∈ r.accepted := by
  have reachable : Reachable step (build 64) _ := ⟨reRegistered, rfl⟩
  exact ⟨_, reachable, rfl, by decide, (streams_fifo_exactly_once reachable rfl).2.2.1⟩

end Actr.Proof.Inbound
