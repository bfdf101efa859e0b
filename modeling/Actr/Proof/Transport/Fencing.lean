import Actr.Proof.Transport.PeerTransport

/-! # What a close fences -/

namespace Actr.Proof.Transport
open Hyper.Transport PeerTransport Library Machine

variable {move : GetStep} {actions : List Action}

/-- Whether a creator can still install a transport. -/
def live (get : Get) : Bool :=
  match get.phase with
  | .tokenless | .connecting | .building => !get.cancelled
  | .finishing result | .updating result => result.isOk
  | _ => false

def settled : GetPhase → Bool
  | .notifying _ | .returned _ | .dropped => true
  | _ => false

def awaiting : GetPhase → Bool
  | .connecting | .building => true
  | _ => false

/-- The section of a close that takes the pending token and cancels it. -/
def takesToken : ClosePhase → Bool
  | .cancelling _ | .drainingTokens => true
  | _ => false

def Live (s : PeerTransport) (call : Nat) : Prop := ∃ get, s.gets[call]? = some get ∧ live get = true

def Installs (s t : PeerTransport) (call : Nat) : Prop :=
  t.transport = some (.connected call) ∧ s.transport ≠ some (.connected call)

structure Kept (get next : Get) : Prop where
  phase : next.phase = get.phase
  cancelled : get.cancelled = true → next.cancelled = true

def KeptCalls (s t : PeerTransport) : Prop :=
  ∀ (call : Nat) (get : Get), s.gets[call]? = some get → ∃ next, t.gets[call]? = some next ∧ Kept get next

section Others

variable {s t u : PeerTransport} {dest : String} {call other : Nat} {get : Get} {phase : GetPhase}

theorem keptCalls_of_gets (same : t.gets = s.gets) : KeptCalls s t := by
  intro call get listed
  rw [same]
  exact ⟨get, listed, rfl, id⟩

theorem keptCalls_modify {change : Get → Get} (kept : ∀ get, Kept get (change get)) :
    KeptCalls s { s with gets := s.gets.modify other change } := by
  intro call get listed
  by_cases same : other = call
  · subst same
    exact ⟨change get, Slots.modify_self listed, kept get⟩
  · exact ⟨get, (Slots.modify_other same).trans listed, rfl, id⟩

theorem KeptCalls.trans (first : KeptCalls s t) (second : KeptCalls t u) : KeptCalls s u := by
  intro call get listed
  obtain ⟨middle, found, kept⟩ := first call get listed
  obtain ⟨next, found, also⟩ := second call middle found
  exact ⟨next, found, also.phase.trans kept.phase, also.cancelled ∘ kept.cancelled⟩

theorem keptCalls_cancelToken (token : Option Nat) : KeptCalls s (s.cancelToken token) := by
  cases token with
  | none => exact keptCalls_of_gets rfl
  | some => exact keptCalls_modify fun _ => ⟨rfl, fun _ => rfl⟩

theorem keptCalls_notifyWaiters (notify : Nat) : KeptCalls s (s.notifyWaiters notify) :=
  keptCalls_modify fun _ => ⟨rfl, id⟩

theorem keptCalls_closeStep {close : Nat} {outcome : NetworkResult Unit} {phase : ClosePhase}
    (action : s.closeStep close outcome phase = some t) : KeptCalls s t := by
  obtain ⟨_, facts⟩ := closeFacts_closeStep action
  cases facts.gets with
  | same gets => exact keptCalls_of_gets gets
  | cancelled gets => exact (keptCalls_cancelToken s.pendingToken).trans (keptCalls_of_gets gets)
  | notified notify gets => exact (keptCalls_notifyWaiters notify).trans (keptCalls_of_gets gets)

theorem keptCalls_outside {action : Action} (outside : isResume action = false)
    (taken : step dest s action = some t) : KeptCalls s t := by
  cases action with
  | get =>
    cases taken
    intro call get listed
    exact ⟨get, Slots.snoc listed, rfl, id⟩
  | closeTransport | closeIfCurrent | closeAll =>
    cases taken
    exact keptCalls_of_gets rfl
  | close =>
    simp only [step] at taken
    split at taken
    · exact keptCalls_closeStep taken
    · cases taken
  | monitor =>
    obtain ⟨-, rfl⟩ := of_guard taken
    exact keptCalls_of_gets rfl
  | resume => cases outside

inductive Progress (dest : String) (get : Get) : Get → Prop
  | insertToken (phase : get.phase = .tokenless) : Progress dest get { get with phase := .connecting }
  | created (phase : get.phase = .connecting) (outcome : NetworkResult Nat) :
      Progress dest get { get with phase := created dest get outcome }
  | built (phase : get.phase = .building) (outcome : NetworkResult Unit) :
      Progress dest get { get with phase := built get outcome }
  | removeToken {result : NetworkResult Unit} (phase : get.phase = .finishing result) :
      Progress dest get { get with phase := .updating result }
  | update {result : NetworkResult Unit} (phase : get.phase = .updating result) :
      Progress dest get { get with phase := .notifying result }
  | notify {result : NetworkResult Unit} {answer : NetworkResult Nat} (phase : get.phase = .notifying result) :
      Progress dest get { get with phase := .returned answer, notifications := get.notifications + 1 }
  | drop : Progress dest get { get with phase := .dropped }

def past (phase : GetPhase) : Bool := creating phase || settled phase

theorem not_past_of_early (before : early phase = true) : past phase = false := by
  cases phase with
  | entering | checking | subscribing | waiting | rechecking | claiming => rfl
  | _ => cases before

theorem progress_resume (listed : s.gets[call]? = some get) (inserted : past get.phase = true)
    (taken : s.resume dest call get move = some t) : ∃ next, t.gets[call]? = some next ∧ Progress dest get next := by
  cases resumes_resume taken with
  | plain before | found before => cases (not_past_of_early before).symm.trans inserted
  | subscribed phase | claim phase =>
    rw [phase] at inserted
    cases inserted
  | insertToken phase => exact ⟨_, Slots.modify_self listed, .insertToken phase⟩
  | created phase outcome => exact ⟨_, Slots.modify_self listed, .created phase outcome⟩
  | built phase outcome => exact ⟨_, Slots.modify_self listed, .built phase outcome⟩
  | removeToken phase => exact ⟨_, Slots.modify_self listed, .removeToken phase⟩
  | update phase => exact ⟨_, Slots.modify_self listed, .update phase⟩
  | notify phase => exact ⟨_, Slots.modify_self (Slots.modify_self listed), .notify phase⟩
  | drop => exact ⟨_, Slots.modify_self listed, .drop⟩

theorem resume_other (different : other ≠ call) (action : s.resume dest other get move = some t) :
    t.gets[call]? = s.gets[call]? := by
  obtain ⟨phase, gets | gets⟩ := (goesOn_resume action).gets
  · rw [gets]
    exact Slots.modify_other different
  · rw [gets]
    exact (Slots.modify_other different).trans (Slots.modify_other different)

theorem past_step {action : Action} (taken : step dest s action = some t) (listed : s.gets[call]? = some get)
    (inserted : past get.phase = true) :
    ∃ next, t.gets[call]? = some next ∧ (Kept get next ∨ Progress dest get next) := by
  cases action with
  | resume other =>
    simp only [step] at taken
    split at taken
    · next found resumed =>
      by_cases same : other = call
      · subst same
        rw [listed] at resumed
        cases resumed
        obtain ⟨next, moved, progress⟩ := progress_resume listed inserted taken
        exact ⟨next, moved, .inr progress⟩
      · exact ⟨get, (resume_other same taken).trans listed, .inl ⟨rfl, id⟩⟩
    · cases taken
  | get | closeTransport | closeIfCurrent | closeAll | close | monitor =>
    obtain ⟨next, found, kept⟩ := keptCalls_outside rfl taken call get listed
    exact ⟨next, found, .inl kept⟩

end Others

section Fenced

variable {s t : PeerTransport} {dest : String} {call : Nat} {get next : Get} {action : Action}

def Spent (s : PeerTransport) (call : Nat) : Prop :=
  ∃ get, s.gets[call]? = some get ∧ past get.phase = true ∧ live get = false

theorem creating_created (outcome : NetworkResult Nat) : creating (created dest get outcome) = true := by
  unfold created
  split
  · rfl
  · split
    · rfl
    · split <;> rfl

theorem creating_built (outcome : NetworkResult Unit) : creating (built get outcome) = true := by
  unfold built
  split
  · rfl
  · split <;> rfl

theorem past_progress (progress : Progress dest get next) : past next.phase = true := by
  cases progress with
  | insertToken | removeToken | update | notify | drop => rfl
  | created => simp [past, creating_created]
  | built => simp [past, creating_built]

theorem dead_kept (kept : Kept get next) (dead : live get = false) : live next = false := by
  obtain ⟨phase, cancelled, count⟩ := get
  obtain ⟨phase', cancelled', count'⟩ := next
  obtain ⟨same, stays⟩ := kept
  cases same
  cases phase with
  | tokenless | connecting | building =>
    simp only [live, Bool.not_eq_false'] at dead ⊢
    exact stays dead
  | _ => exact dead

theorem dead_progress (dead : live get = false) (progress : Progress dest get next) : live next = false := by
  cases progress with
  | insertToken phase | removeToken phase => simpa [live, phase] using dead
  | update | notify | drop => rfl
  | created phase outcome =>
    have cancelled : get.cancelled = true := by simpa [live, phase] using dead
    cases outcome <;> simp [live, created, cancelled, Except.isOk, Except.toBool]
  | built phase outcome =>
    have cancelled : get.cancelled = true := by simpa [live, phase] using dead
    cases outcome <;> simp [live, built, cancelled, Except.isOk, Except.toBool]

theorem spent_step (spent : Spent s call) (taken : step dest s action = some t) : Spent t call := by
  obtain ⟨get, listed, inserted, dead⟩ := spent
  obtain ⟨next, found, kept | progress⟩ := past_step taken listed inserted
  · exact ⟨next, found, kept.phase ▸ inserted, dead_kept kept dead⟩
  · exact ⟨next, found, past_progress progress, dead_progress dead progress⟩

theorem update_of_installs (installs : Installs s t call) (taken : step dest s action = some t) :
    ∃ get, s.gets[call]? = some get ∧ get.phase = .updating (.ok ()) ∧ t = s.update call (.ok ()) := by
  obtain ⟨installed, new⟩ := installs
  cases effect_step taken with
  | call recede entry => exact absurd (entry ▸ installed) new
  | outside other taken =>
    rcases taken.entry with same | gone
    · exact absurd (same ▸ installed) new
    · rw [gone] at installed
      cases installed
  | claim => cases installed
  | insertToken | removeToken => exact absurd installed new
  | @update _ get result listed phase =>
    cases result with
    | error => cases installed
    | ok =>
      cases installed
      exact ⟨get, listed, phase, rfl⟩

theorem live_of_installs (installs : Installs s t call) (taken : step dest s action = some t) : Live s call := by
  obtain ⟨get, listed, phase, -⟩ := update_of_installs installs taken
  refine ⟨get, listed, ?_⟩
  simp only [live, phase]
  rfl

theorem not_installs_of_spent (spent : Spent s call) (taken : step dest s action = some t) : ¬ Installs s t call := by
  intro installs
  obtain ⟨get, listed, -, dead⟩ := spent
  obtain ⟨found, same, lives⟩ := live_of_installs installs taken
  rw [listed] at same
  cases same
  rw [dead] at lives
  cases lives

end Fenced

section Results

variable {dest : String} {call close : Nat} {s t : PeerTransport}

theorem spent_exec (spent : Spent s call) (run : exec (step dest) s actions = some t) : Spent t call := by
  let Inv (s : PeerTransport) : Prop := Spent s call
  have start : Inv s := spent
  apply exec_invariant ?_ start run
  intro s action t spent taken
  exact spent_step spent taken

theorem spent_of_taken {look : ClosePhase} {outcome : NetworkResult Unit} (takes : takesToken look = true)
    (own : s.pendingToken = some call) (awaits : At s awaiting call) (taken : s.closeStep close outcome look = some t) :
    Spent t call := by
  obtain ⟨⟨phase, cancelled, count⟩, listed, awaits⟩ := awaits
  have spent : Spent (s.cancelToken s.pendingToken) call := by
    rw [own]
    refine ⟨⟨phase, true, count⟩, Slots.modify_self listed, ?_⟩
    cases phase with
    | connecting | building => exact ⟨rfl, rfl⟩
    | _ => cases awaits
  cases look with
  | cancelling | drainingTokens =>
    cases taken
    exact spent
  | _ => cases takes

theorem close_fences_creator_whose_token_it_takes (dest : String) (call close : Nat) (s t : PeerTransport)
    (look : ClosePhase) (outcome : NetworkResult Unit) (looks : s.closes[close]? = some look)
    (takes : takesToken look = true) (own : s.pendingToken = some call) (awaits : At s awaiting call)
    (taken : step dest s (.close close outcome) = some t) :
    ∀ later u action v, exec (step dest) t later = some u → step dest u action = some v → ¬ Installs u v call := by
  intro later u action v run installs
  simp only [step, looks] at taken
  exact not_installs_of_spent (spent_exec (spent_of_taken takes own awaits taken) run) installs

def claims (sections : Nat) : List Action := .get :: List.replicate sections (.resume 0 .advance)

def closes (sections : Nat) : List Action := List.replicate sections (.close 0 (.ok ()))

def closingOver (token : Option Nat) (cancelled : Bool) (close : ClosePhase) : PeerTransport :=
  ⟨some (.connecting 0), token, true, [⟨.connecting, cancelled, 0⟩], [close]⟩

theorem close_fences_connecting_creator :
    let s := closingOver (some 0) false (.cancelling (.connecting 0))
    let t := closingOver none true (.removing (.connecting 0))
    exec (step "Host") initial (claims 4 ++ .closeTransport :: closes 2) = some s ∧
      step "Host" s (.close 0 (.ok ())) = some t ∧
      ∀ later u action v, exec (step "Host") t later = some u → step "Host" u action = some v → ¬ Installs u v 0 :=
  ⟨rfl, rfl, close_fences_creator_whose_token_it_takes "Host" 0 0
    (closingOver (some 0) false (.cancelling (.connecting 0))) _ _ (.ok ()) rfl rfl rfl ⟨_, rfl, rfl⟩ rfl⟩

/-- The close has returned over an empty map, and the call installs its transport afterwards. -/
def Missed (closed : PeerTransport) : Prop :=
  closed.closes = [.returned (.ok true)] ∧ ∃ later s action t, exec (step "Host") closed later = some s ∧
    step "Host" s action = some t ∧ Installs s t 0

-- The close runs as a whole while the call is between the insertion of its entry and that of its token, or after the
-- last check of its token.
theorem close_misses_creator_without_check :
    (∃ closed, exec (step "Host") initial (claims 3 ++ .closeTransport :: closes 6) = some closed ∧ Missed closed) ∧
      ∃ closed, exec (step "Host") initial (claims 4 ++ [.resume 0 (.created (.ok 1)), .resume 0 (.built (.ok ()))] ++
        .closeTransport :: closes 6) = some closed ∧ Missed closed := by
  refine ⟨⟨_, rfl, rfl, ?_⟩, ⟨_, rfl, rfl, ?_⟩⟩
  · refine ⟨[.resume 0 .advance, .resume 0 (.created (.ok 1)), .resume 0 (.built (.ok ())), .resume 0 .advance], _,
      .resume 0 .advance, _, rfl, rfl, rfl, ?_⟩
    nofun
  · refine ⟨[.resume 0 .advance], _, .resume 0 .advance, _, rfl, rfl, rfl, ?_⟩
    nofun

end Results

end Actr.Proof.Transport
