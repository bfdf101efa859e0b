import Actr.Proof.Transport.Fencing
import Actr.Proof.Transport.SingleFlight

/-! # Who wakes the calls that wait for a connection -/

namespace Actr.Proof.Transport
open Hyper.Transport PeerTransport Library Machine

variable {next : Get}

def notifies (phase : GetPhase) : Bool :=
  creating phase || match phase with
    | .notifying _ => true
    | _ => false

def phaseIs (s : PeerTransport) (call : Nat) (places : GetPhase → Bool) : Bool :=
  s.gets[call]?.any fun get => places get.phase

/-- The future of a creator is dropped before it has updated the map. -/
def dropsCreator (s : PeerTransport) : Action → Bool
  | .resume call .drop => phaseIs s call creating
  | _ => false

def subscribesTo (notify : Nat) : GetPhase → Bool
  | .subscribing other _ => other = notify
  | _ => false

def isNotifying : GetPhase → Bool
  | .notifying _ => true
  | _ => false

/-- A creator notifies while a call has read its entry and has not asked for the notification yet. -/
def notifiesEarly (s : PeerTransport) : Action → Bool
  | .resume call .advance => phaseIs s call isNotifying && s.gets.any fun get => subscribesTo call get.phase
  | _ => false

structure Moves (s : PeerTransport) (action : Action) (t : PeerTransport) (before after : GetPhase) : Prop where
  subscribes : ∀ notify timed, after = .subscribing notify timed → s.transport = some (.connecting notify)
  waits : ∀ notify timed calls, after = .waiting notify timed calls →
    before = .subscribing notify timed ∧ calls = s.notifications notify
  creates : creating before = true →
    creating after = true ∨ dropsCreator s action = true ∨ ∀ notify, t.transport ≠ some (.connecting notify)
  notifies : notifies before = true → notifies after = true ∨ dropsCreator s action = true

inductive GetsStep (s : PeerTransport) (action : Action) (t : PeerTransport) : Prop
  | same (gets : t.gets = s.gets)
  | called (gets : t.gets = s.gets ++ [⟨.entering, false, 0⟩])
  | moved {call : Nat} {get : Get} {phase : GetPhase} (listed : s.gets[call]? = some get)
      (moves : Moves s action t get.phase phase) (gets : t.gets = (s.setPhase call phase).gets)
  | cancelled {token : Option Nat} (gets : t.gets = (s.cancelToken token).gets)
  | notified {notify : Nat} (gets : t.gets = (s.notifyWaiters notify).gets)
  | finished {call : Nat} {get : Get} {answer : NetworkResult Nat} (listed : s.gets[call]? = some get)
      (own : action = .resume call .advance) (phase : isNotifying get.phase = true)
      (gets : t.gets = ((s.notifyWaiters call).setPhase call (.returned answer)).gets)

section Gets

variable {s t : PeerTransport} {dest : String} {call : Nat} {get : Get} {move : GetStep} {action : Action}

theorem not_notifies_of_early {phase : GetPhase} (before : early phase = true) : notifies phase = false := by
  cases phase with
  | entering | checking | subscribing | waiting | rechecking | claiming => rfl
  | _ => cases before

theorem moves_early {before after : GetPhase} (idle : early before = true)
    (subscribes : ∀ notify timed, after = .subscribing notify timed → s.transport = some (.connecting notify))
    (waits : ∀ notify timed calls, after = .waiting notify timed calls →
      before = .subscribing notify timed ∧ calls = s.notifications notify) : Moves s action t before after where
  subscribes := subscribes
  waits := waits
  creates := fun creates => by simpa [notifies, creates] using not_notifies_of_early idle
  notifies := fun notifies => by simp [not_notifies_of_early idle] at notifies

theorem moves_creating {before after : GetPhase} (creates : creating after = true) :
    Moves s action t before after := by
  refine ⟨?_, ?_, fun _ => .inl creates, fun _ => .inl (by simp [notifies, creates])⟩
  · rintro notify timed rfl
    cases creates
  · rintro notify timed calls rfl
    cases creates

theorem getsStep_resume (listed : s.gets[call]? = some get) (taken : s.resume dest call get move = some t) :
    GetsStep s (.resume call move) t := by
  cases resumes_resume taken with
  | plain before after =>
    obtain rfl | rfl | rfl | ⟨_, rfl⟩ := after <;> exact .moved listed (moves_early before (by simp) (by simp)) rfl
  | found before entry =>
    refine .moved listed (moves_early before ?_ (by simp)) rfl
    intro other timed same
    cases same
    exact entry
  | subscribed phase =>
    refine .moved listed (moves_early (by rw [phase]; rfl) (by simp) ?_) rfl
    intro other timed calls same
    cases same
    exact ⟨phase, rfl⟩
  | claim | insertToken | removeToken => exact .moved listed (moves_creating rfl) rfl
  | created phase outcome => exact .moved listed (moves_creating (creating_created outcome)) rfl
  | built phase outcome => exact .moved listed (moves_creating (creating_built outcome)) rfl
  | update =>
    refine .moved listed ⟨by simp, by simp, fun _ => .inr (.inr ?_), fun _ => .inl rfl⟩ rfl
    exact update_never_connecting
  | notify phase => exact .finished listed rfl (by rw [phase]; rfl) rfl
  | drop before =>
    have dropped (creates : creating get.phase = true) : dropsCreator s (.resume call .drop) = true := by
      simp [dropsCreator, phaseIs, listed, creates]
    refine .moved listed ⟨by simp, by simp, fun creates => .inr (.inl (dropped creates)), fun running => ?_⟩ rfl
    rcases before with idle | creates
    · cases (not_notifies_of_early idle).symm.trans running
    · exact .inr (dropped creates)

theorem getsStep_closeStep {close : Nat} {outcome : NetworkResult Unit} {phase : ClosePhase}
    (taken : s.closeStep close outcome phase = some t) : GetsStep s action t := by
  obtain ⟨_, facts⟩ := closeFacts_closeStep taken
  cases facts.gets with
  | same gets => exact .same gets
  | cancelled gets => exact .cancelled gets
  | notified notify gets => exact .notified gets

theorem getsStep_step (taken : step dest s action = some t) : GetsStep s action t := by
  cases action with
  | get =>
    cases taken
    exact .called rfl
  | closeTransport | closeIfCurrent | closeAll =>
    cases taken
    exact .same rfl
  | resume =>
    simp only [step] at taken
    split at taken
    · next get listed => exact getsStep_resume listed taken
    · cases taken
  | close =>
    simp only [step] at taken
    split at taken
    · exact getsStep_closeStep taken
    · cases taken
  | monitor =>
    obtain ⟨-, rfl⟩ := of_guard taken
    exact .same rfl

structure Becomes (s : PeerTransport) (action : Action) (t : PeerTransport) (call : Nat) (get next : Get) : Prop where
  heard : get.notifications ≤ next.notifications
  phase : next.phase = get.phase ∨ Moves s action t get.phase next.phase ∨
    (∃ answer, next.phase = .returned answer) ∧ action = .resume call .advance ∧ isNotifying get.phase = true ∧
      get.notifications < next.notifications

theorem becomes_modify {change : Get → Get} {other : Nat} (phase : ∀ get, (change get).phase = get.phase)
    (heard : ∀ get : Get, get.notifications ≤ (change get).notifications) (listed : s.gets[call]? = some get) :
    ∃ next, (s.gets.modify other change)[call]? = some next ∧ Becomes s action t call get next := by
  by_cases same : other = call
  · subst same
    exact ⟨_, Slots.modify_self listed, heard get, .inl (phase get)⟩
  · exact ⟨get, (Slots.modify_other same).trans listed, le_rfl, .inl rfl⟩

theorem becomes_step (gets : GetsStep s action t) (listed : s.gets[call]? = some get) :
    ∃ next, t.gets[call]? = some next ∧ Becomes s action t call get next := by
  cases gets with
  | same gets =>
    rw [gets]
    exact ⟨get, listed, le_rfl, .inl rfl⟩
  | called gets =>
    rw [gets]
    exact ⟨get, Slots.snoc listed, le_rfl, .inl rfl⟩
  | @moved other mover phase found moves gets =>
    rw [gets]
    by_cases same : other = call
    · subst same
      cases listed.symm.trans found
      exact ⟨_, Slots.modify_self listed, le_rfl, .inr (.inl moves)⟩
    · exact ⟨get, (Slots.modify_other same).trans listed, le_rfl, .inl rfl⟩
  | @cancelled token gets =>
    rw [gets]
    cases token with
    | none => exact ⟨get, listed, le_rfl, .inl rfl⟩
    | some => exact becomes_modify (fun _ => rfl) (fun _ => le_rfl) listed
  | notified gets =>
    rw [gets]
    exact becomes_modify (fun _ => rfl) (fun _ => Nat.le_succ _) listed
  | @finished other mover answer found own notifying gets =>
    rw [gets]
    by_cases same : other = call
    · subst same
      cases listed.symm.trans found
      exact ⟨_, Slots.modify_self (Slots.modify_self listed), Nat.le_succ _,
        .inr (.inr ⟨⟨answer, rfl⟩, own, notifying, Nat.lt_succ_self _⟩)⟩
    · exact ⟨get, ((Slots.modify_other same).trans (Slots.modify_other same)).trans listed, le_rfl, .inl rfl⟩

theorem entering_of_new (gets : GetsStep s action t) (new : s.gets[call]? = none)
    (found : t.gets[call]? = some next) : next.phase = .entering := by
  have modified {change : Get → Get} {other : Nat} : (s.gets.modify other change)[call]? = none := by
    rw [List.getElem?_modify, new]
    rfl
  cases gets with
  | same gets =>
    rw [gets, new] at found
    cases found
  | called gets =>
    rw [gets] at found
    rcases Slots.of_snoc found with old | ⟨-, rfl⟩
    · cases new.symm.trans old
    · rfl
  | moved listed moves gets =>
    rw [gets] at found
    cases modified.symm.trans found
  | @cancelled token gets =>
    rw [gets] at found
    cases token with
    | none => cases new.symm.trans found
    | some => cases modified.symm.trans found
  | notified gets =>
    rw [gets] at found
    cases modified.symm.trans found
  | finished listed own notifying gets =>
    rw [gets, setPhase, notifyWaiters, List.getElem?_modify, modified] at found
    cases found

theorem notifications_eq (listed : s.gets[call]? = some get) : s.notifications call = get.notifications := by
  simp only [notifications, listed]

theorem notifications_le (gets : GetsStep s action t) (notify : Nat) :
    s.notifications notify ≤ t.notifications notify := by
  cases listed : s.gets[notify]? with
  | none => simp [notifications, listed]
  | some =>
    obtain ⟨next, found, becomes⟩ := becomes_step gets listed
    rw [notifications_eq listed, notifications_eq found]
    exact becomes.heard

end Gets

/-- Every `Connecting` entry has a creator that runs, and nobody waits in vain. -/
structure Tended (s : PeerTransport) : Prop where
  owned : ∀ notify, s.transport = some (.connecting notify) → At s creating notify
  woken : ∀ (call : Nat) (get : Get) (notify : Nat) (timed : Bool) (calls : Nat), s.gets[call]? = some get →
    get.phase = .waiting notify timed calls →
      s.transport = some (.connecting notify) ∨ calls < s.notifications notify ∨ At s notifies notify

structure Attended (s : PeerTransport) : Prop where
  owned : ∀ notify, s.transport = some (.connecting notify) → At s creating notify
  subscribed : ∀ (call : Nat) (get : Get) (notify : Nat) (timed : Bool), s.gets[call]? = some get →
    get.phase = .subscribing notify timed → At s notifies notify
  waiting : ∀ (call : Nat) (get : Get) (notify : Nat) (timed : Bool) (calls : Nat), s.gets[call]? = some get →
    get.phase = .waiting notify timed calls →
      calls ≤ s.notifications notify ∧ (calls < s.notifications notify ∨ At s notifies notify)

/-- No creator is dropped, and none notifies between a call's look at the map and its subscription. -/
def Undropped (s : PeerTransport) (action : Action) (_ : PeerTransport) : Prop :=
  dropsCreator s action = false ∧ notifiesEarly s action = false
  deriving Decidable

section Waiting

variable {s t : PeerTransport} {dest : String} {call notify : Nat} {get : Get} {action : Action} {timed : Bool}

theorem notifies_step (gets : GetsStep s action t) (undropped : dropsCreator s action = false)
    (running : At s notifies notify) :
    At t notifies notify ∨ s.notifications notify < t.notifications notify ∧ action = .resume notify .advance ∧
      phaseIs s notify isNotifying = true := by
  obtain ⟨get, listed, running⟩ := running
  obtain ⟨next, found, becomes⟩ := becomes_step gets listed
  rcases becomes.phase with same | moves | ⟨-, own, notifying, more⟩
  · exact .inl ⟨next, found, same ▸ running⟩
  · rcases moves.notifies running with still | dropped
    · exact .inl ⟨next, found, still⟩
    · cases undropped.symm.trans dropped
  · right
    rw [notifications_eq listed, notifications_eq found]
    exact ⟨more, own, by simp [phaseIs, listed, notifying]⟩

theorem connecting_of_step (taken : step dest s action = some t) (entry : t.transport = some (.connecting notify)) :
    s.transport = some (.connecting notify) ∨ At t creating notify := by
  cases effect_step taken with
  | call recede same => exact .inl (same ▸ entry)
  | outside other taken =>
    rcases taken.entry with same | gone
    · exact .inl (same ▸ entry)
    · cases gone.symm.trans entry
  | claim listed =>
    cases entry
    exact .inr ((at_setPhase_self listed).mpr rfl)
  | insertToken | removeToken => exact .inl entry
  | update => exact absurd entry (update_never_connecting notify)

theorem owned_step (attended : Attended s) (taken : step dest s action = some t)
    (undropped : dropsCreator s action = false) (entry : t.transport = some (.connecting notify)) :
    At t creating notify := by
  rcases connecting_of_step taken entry with before | claimed
  · obtain ⟨get, listed, creates⟩ := attended.owned notify before
    obtain ⟨next, found, becomes⟩ := becomes_step (getsStep_step taken) listed
    rcases becomes.phase with same | moves | ⟨-, -, notifying, -⟩
    · exact ⟨next, found, same ▸ creates⟩
    · rcases moves.creates creates with still | dropped | never
      · exact ⟨next, found, still⟩
      · cases undropped.symm.trans dropped
      · exact absurd entry (never notify)
    · cases phase : get.phase with
      | notifying =>
        rw [phase] at creates
        cases creates
      | _ =>
        rw [phase] at notifying
        cases notifying
  · exact claimed

theorem at_notifies_of_creating (creates : At s creating call) : At s notifies call := by
  obtain ⟨get, listed, creates⟩ := creates
  exact ⟨get, listed, by simp [notifies, creates]⟩

theorem not_notifying_of_creating (creates : At s creating call) : phaseIs s call isNotifying = false := by
  obtain ⟨get, listed, creates⟩ := creates
  simp only [phaseIs, listed, Option.any_some]
  cases phase : get.phase with
  | notifying =>
    rw [phase] at creates
    cases creates
  | _ => rfl

section

variable (attended : Attended s) (taken : step dest s action = some t) (undropped : Undropped s action t)
include attended taken undropped

theorem running_after (listed : s.gets[call]? = some get) (phase : get.phase = .subscribing notify timed) :
    At t notifies notify := by
  have running := attended.subscribed call get notify timed listed phase
  rcases notifies_step (getsStep_step taken) undropped.1 running with still | ⟨-, own, notifying⟩
  · exact still
  · have late := undropped.2
    have subscribed : s.gets.any (fun get => subscribesTo notify get.phase) = true :=
      List.any_eq_true.mpr ⟨get, List.mem_of_getElem? listed, by simp [subscribesTo, phase]⟩
    rw [own, notifiesEarly, notifying, subscribed] at late
    cases late

theorem subscribed_step (found : t.gets[call]? = some next)
    (phase : next.phase = .subscribing notify timed) : At t notifies notify := by
  cases listed : s.gets[call]? with
  | none =>
    rw [entering_of_new (getsStep_step taken) listed found] at phase
    cases phase
  | some =>
    obtain ⟨same, here, becomes⟩ := becomes_step (getsStep_step taken) listed
    cases here.symm.trans found
    rcases becomes.phase with kept | moves | ⟨⟨answer, returned⟩, -⟩
    · exact running_after attended taken undropped listed (kept.symm.trans phase)
    · have creates := attended.owned notify (moves.subscribes notify timed phase)
      rcases notifies_step (getsStep_step taken) undropped.1 (at_notifies_of_creating creates) with still | ended
      · exact still
      · rw [not_notifying_of_creating creates] at ended
        cases ended.2.2
    · cases returned.symm.trans phase

theorem waiting_step {calls : Nat} (found : t.gets[call]? = some next)
    (phase : next.phase = .waiting notify timed calls) :
    calls ≤ t.notifications notify ∧ (calls < t.notifications notify ∨ At t notifies notify) := by
  have more := notifications_le (getsStep_step taken) notify
  cases listed : s.gets[call]? with
  | none =>
    rw [entering_of_new (getsStep_step taken) listed found] at phase
    cases phase
  | some get =>
    obtain ⟨same, here, becomes⟩ := becomes_step (getsStep_step taken) listed
    cases here.symm.trans found
    rcases becomes.phase with kept | moves | ⟨⟨answer, returned⟩, -⟩
    · obtain ⟨before, notified | running⟩ := attended.waiting call get notify timed calls listed (kept.symm.trans phase)
      · exact ⟨before.trans more, .inl (notified.trans_le more)⟩
      · refine ⟨before.trans more, ?_⟩
        rcases notifies_step (getsStep_step taken) undropped.1 running with still | ⟨newer, -⟩
        · exact .inr still
        · exact .inl (before.trans_lt newer)
    · obtain ⟨subscribing, rfl⟩ := moves.waits notify timed calls phase
      exact ⟨more, .inr (running_after attended taken undropped listed subscribing)⟩
    · cases returned.symm.trans phase

end

theorem attended_step (attended : Attended s) (undropped : Undropped s action t)
    (taken : step dest s action = some t) : Attended t := by
  constructor
  case owned => exact fun notify => owned_step attended taken undropped.1
  case subscribed => exact fun call next notify timed => subscribed_step attended taken undropped
  case waiting => exact fun call next notify timed calls => waiting_step attended taken undropped

theorem tended_of_attended (attended : Attended s) : Tended s := by
  refine ⟨attended.owned, ?_⟩
  intro call get notify timed calls listed phase
  exact .inr (attended.waiting call get notify timed calls listed phase).2

theorem attended_initial : Attended initial := by
  constructor
  case owned =>
    intro notify entry
    cases entry
  case subscribed =>
    intro call get notify timed listed
    cases listed
  case waiting =>
    intro call get notify timed calls listed
    cases listed

end Waiting

theorem connecting_entries_are_tended (dest : String) (actions : List Action)
    (undropped : Along (step dest) Undropped initial actions) :
    Along (step dest) (fun _ _ t => Tended t) initial actions := by
  refine along_of_guarded attended_initial ?_ undropped
  intro s action t attended undropped taken
  have after := attended_step attended undropped taken
  exact ⟨tended_of_attended after, after⟩

def claimsAndFinds : List Action :=
  [.get, .resume 0 .advance, .resume 0 .advance, .resume 0 .advance, .resume 0 .advance,
    .get, .resume 1 .advance, .resume 1 .advance]

def establishesTransport : List Action :=
  [.resume 0 (.created (.ok 1)), .resume 0 (.built (.ok ())), .resume 0 .advance, .resume 0 .advance,
    .resume 0 .advance]

theorem connecting_entries_are_tended_of_two :
    Along (step "Host") Undropped initial (claimsAndFinds ++ [.resume 1 .advance] ++ establishesTransport) ∧
      Along (step "Host") (fun _ _ t => Tended t) initial
        (claimsAndFinds ++ [.resume 1 .advance] ++ establishesTransport) ∧
      ∃ s, exec (step "Host") initial (claimsAndFinds ++ [.resume 1 .advance] ++ establishesTransport ++
        [.resume 1 .wake, .resume 1 .advance, .resume 1 .advance]) = some s ∧ s.transport = some (.connected 0) := by
  have undropped : Along (step "Host") Undropped initial
      (claimsAndFinds ++ [.resume 1 .advance] ++ establishesTransport) := by decide +kernel
  exact ⟨undropped, connecting_entries_are_tended "Host" _ undropped, exec_of_any (by decide +kernel)⟩

def waitsSince (notify calls : Nat) : GetPhase → Bool
  | .waiting other _ since => other = notify && since = calls
  | _ => false

theorem connecting_entries_are_orphaned :
    (∃ s, exec (step "Host") initial (claimsAndFinds ++ [.resume 1 .advance, .resume 0 .drop]) = some s ∧
      s.transport = some (.connecting 0) ∧ (s.gets.map Get.phase).map notifies = [false, false] ∧
      phaseIs s 1 (waitsSince 0 (s.notifications 0)) = true) ∧
    ∃ s, exec (step "Host") initial (claimsAndFinds ++ establishesTransport ++ [.resume 1 .advance]) = some s ∧
      s.transport = some (.connected 0) ∧ (s.gets.map Get.phase).map notifies = [false, false] ∧
      phaseIs s 1 (waitsSince 0 (s.notifications 0)) = true := by
  exact ⟨exec_of_any (by decide +kernel), exec_of_any (by decide +kernel)⟩

end Actr.Proof.Transport
