import Actr.Hyper.Transport.PeerTransport
import Actr.Library.Slots

/-! # What a step can do to the maps of a destination -/

namespace Actr.Proof.Transport
open Hyper.Transport PeerTransport Library

variable {outcome : NetworkResult Unit}

def creating : GetPhase → Bool
  | .tokenless | .connecting | .building | .finishing _ | .updating _ => true
  | _ => false

def holding : GetPhase → Bool
  | .connecting | .building | .finishing _ | .updating _ => true
  | _ => false

def early : GetPhase → Bool
  | .entering | .checking | .subscribing _ _ | .waiting _ _ _ | .rechecking | .claiming => true
  | _ => false

def At (s : PeerTransport) (places : GetPhase → Bool) (call : Nat) : Prop :=
  ∃ get, s.gets[call]? = some get ∧ places get.phase = true

def Recede (s t : PeerTransport) : Prop :=
  ∀ call, (At t creating call → At s creating call) ∧ (At t holding call → At s holding call)

section Places

variable {s : PeerTransport} {call other : Nat} {get : Get} {phase : GetPhase} {places : GetPhase → Bool}

theorem creating_of_holding (holds : holding phase = true) : creating phase = true := by
  cases phase with
  | connecting | building | finishing | updating => rfl
  | _ => cases holds

theorem at_creating_of_holding (holds : At s holding call) : At s creating call := by
  obtain ⟨get, listed, located⟩ := holds
  exact ⟨get, listed, creating_of_holding located⟩

theorem at_iff (listed : s.gets[call]? = some get) : At s places call ↔ places get.phase = true := by
  constructor
  · rintro ⟨found, same, located⟩
    rw [listed] at same
    cases same
    exact located
  · intro located
    exact ⟨get, listed, located⟩

theorem at_setPhase_self (listed : s.gets[call]? = some get) :
    At (s.setPhase call phase) places call ↔ places phase = true := by
  have changed : (s.setPhase call phase).gets[call]? = some { get with phase := phase } :=
    Slots.modify_self listed
  exact at_iff changed

theorem at_setPhase_other (different : call ≠ other) :
    At (s.setPhase call phase) places other ↔ At s places other := by
  unfold At setPhase
  simp only [Slots.modify_other different]

theorem at_of_setPhase (listed : s.gets[call]? = some get) (kept : places phase = true → places get.phase = true)
    (located : At (s.setPhase call phase) places other) : At s places other := by
  by_cases same : call = other
  · subst same
    exact (at_iff listed).mpr (kept ((at_setPhase_self listed).mp located))
  · exact (at_setPhase_other same).mp located

theorem at_of_modify {change : Get → Get} (kept : ∀ get, (change get).phase = get.phase)
    (located : At { s with gets := s.gets.modify call change } places other) : At s places other := by
  obtain ⟨get, listed, located⟩ := located
  obtain ⟨before, found, ⟨-, rfl⟩ | ⟨-, rfl⟩⟩ := Slots.of_modify listed
  · rw [kept] at located
    exact ⟨before, found, located⟩
  · exact ⟨get, found, located⟩

theorem recede_setPhase (listed : s.gets[call]? = some get)
    (creates : creating phase = true → creating get.phase = true)
    (holds : holding phase = true → holding get.phase = true) : Recede s (s.setPhase call phase) := by
  intro other
  exact ⟨at_of_setPhase listed creates, at_of_setPhase listed holds⟩

theorem recede_notifyWaiters (notify : Nat) : Recede s (s.notifyWaiters notify) := by
  intro other
  exact ⟨at_of_modify fun _ => rfl, at_of_modify fun _ => rfl⟩

theorem recede_cancelToken (token : Option Nat) : Recede s (s.cancelToken token) := by
  intro other
  cases token with
  | none => exact ⟨id, id⟩
  | some => exact ⟨at_of_modify fun _ => rfl, at_of_modify fun _ => rfl⟩

theorem transport_cancelToken (token : Option Nat) : (s.cancelToken token).transport = s.transport := by
  cases token with
  | none | some => rfl

theorem recede_of_gets {t : PeerTransport} (same : t.gets = s.gets) : Recede s t := by
  intro other
  unfold At
  rw [same]
  exact ⟨id, id⟩

theorem Recede.trans {t u : PeerTransport} (first : Recede s t) (second : Recede t u) : Recede s u := by
  intro other
  exact ⟨(first other).1 ∘ (second other).1, (first other).2 ∘ (second other).2⟩

end Places

/-- What a close does to the calls and their token. -/
inductive CloseGets (s t : PeerTransport) : Prop
  | same (gets : t.gets = s.gets) (token : t.pendingToken = s.pendingToken)
  | cancelled (gets : t.gets = (s.cancelToken s.pendingToken).gets) (token : t.pendingToken = none)
  | notified (notify : Nat) (gets : t.gets = (s.notifyWaiters notify).gets) (token : t.pendingToken = s.pendingToken)

inductive Resumes (s : PeerTransport) (dest : String) (call : Nat) (get : Get) : GetStep → PeerTransport → Prop
  | plain {move : GetStep} {phase : GetPhase} (before : early get.phase = true)
      (after : phase = .checking ∨ phase = .rechecking ∨ phase = .claiming ∨ ∃ result, phase = .returned result) :
      Resumes s dest call get move (s.setPhase call phase)
  | found {notify : Nat} {timed : Bool} (before : early get.phase = true)
      (entry : s.transport = some (.connecting notify)) :
      Resumes s dest call get .advance (s.setPhase call (.subscribing notify timed))
  | subscribed {notify : Nat} {timed : Bool} (phase : get.phase = .subscribing notify timed) :
      Resumes s dest call get .advance (s.setPhase call (.waiting notify timed (s.notifications notify)))
  | claim (phase : get.phase = .claiming) (vacant : s.transport = none) (unmarked : s.isClosing = false) :
      Resumes s dest call get .advance { s.setPhase call .tokenless with transport := some (.connecting call) }
  | insertToken (phase : get.phase = .tokenless) :
      Resumes s dest call get .advance { s.setPhase call .connecting with pendingToken := some call }
  | created (phase : get.phase = .connecting) (outcome : NetworkResult Nat) :
      Resumes s dest call get (.created outcome) (s.setPhase call (created dest get outcome))
  | built (phase : get.phase = .building) (outcome : NetworkResult Unit) :
      Resumes s dest call get (.built outcome) (s.setPhase call (built get outcome))
  | removeToken {result : NetworkResult Unit} (phase : get.phase = .finishing result) :
      Resumes s dest call get .advance { s.setPhase call (.updating result) with pendingToken := none }
  | update {result : NetworkResult Unit} (phase : get.phase = .updating result) :
      Resumes s dest call get .advance (s.update call result)
  | notify {result : NetworkResult Unit} (phase : get.phase = .notifying result) :
      Resumes s dest call get .advance ((s.notifyWaiters call).setPhase call (.returned (finished call result)))
  | drop (before : early get.phase = true ∨ creating get.phase = true) :
      Resumes s dest call get .drop (s.setPhase call .dropped)

/-- A call that goes on changes its own phase, and may notify. -/
structure GoesOn (s : PeerTransport) (call : Nat) (t : PeerTransport) : Prop where
  gets : ∃ phase, t.gets = (s.setPhase call phase).gets ∨ t.gets = ((s.notifyWaiters call).setPhase call phase).gets
  closes : t.closes = s.closes
  mark : t.isClosing = s.isClosing

structure Taken (s t : PeerTransport) : Prop where
  recede : Recede s t
  entry : t.transport = s.transport ∨ t.transport = none
  token : t.pendingToken = s.pendingToken ∨ t.pendingToken = none

inductive Effect (s : PeerTransport) : Action → PeerTransport → Prop
  | call {call : Nat} {move : GetStep} {t : PeerTransport} (recede : Recede s t)
      (entry : t.transport = s.transport) (token : t.pendingToken = s.pendingToken) :
      Effect s (.resume call move) t
  | outside {action : Action} {t : PeerTransport} (other : ∀ call move, action ≠ .resume call move)
      (taken : Taken s t) : Effect s action t
  | claim {call : Nat} {get : Get} (listed : s.gets[call]? = some get) (phase : get.phase = .claiming)
      (vacant : s.transport = none) (unmarked : s.isClosing = false) :
      Effect s (.resume call .advance) { s.setPhase call .tokenless with transport := some (.connecting call) }
  | insertToken {call : Nat} {get : Get} (listed : s.gets[call]? = some get) (phase : get.phase = .tokenless) :
      Effect s (.resume call .advance) { s.setPhase call .connecting with pendingToken := some call }
  | removeToken {call : Nat} {get : Get} {result : NetworkResult Unit} (listed : s.gets[call]? = some get)
      (phase : get.phase = .finishing result) :
      Effect s (.resume call .advance) { s.setPhase call (.updating result) with pendingToken := none }
  | update {call : Nat} {get : Get} {result : NetworkResult Unit} (listed : s.gets[call]? = some get)
      (phase : get.phase = .updating result) : Effect s (.resume call .advance) (s.update call result)

section Effects

variable {s t : PeerTransport} {dest : String} {call : Nat} {get : Get} {move : GetStep}

theorem resumes_advance (taken : s.advance dest call get.phase = some t) : Resumes s dest call get .advance t := by
  obtain ⟨phase, cancelled, notifications⟩ := get
  cases phase with
  | entering | rechecking =>
    cases taken
    refine .plain rfl ?_
    split <;> simp
  | checking =>
    cases taken
    unfold check
    split
    · exact .plain rfl (by simp)
    · next entry => exact .found rfl entry
    · exact .plain rfl (by simp)
  | subscribing =>
    cases taken
    exact .subscribed rfl
  | claiming =>
    cases taken
    unfold claim
    split
    · exact .plain rfl (by simp)
    · next entry => exact .found rfl entry
    · next vacant =>
      split
      · exact .plain rfl (by simp)
      · next unmarked => exact .claim rfl vacant (by simpa using unmarked)
  | tokenless =>
    cases taken
    exact .insertToken rfl
  | finishing =>
    cases taken
    exact .removeToken rfl
  | updating =>
    cases taken
    exact .update rfl
  | notifying =>
    cases taken
    exact .notify rfl
  | waiting | connecting | building | returned | dropped => cases taken

theorem resumes_resume (taken : s.resume dest call get move = some t) : Resumes s dest call get move t := by
  cases move with
  | advance => exact resumes_advance taken
  | wake =>
    simp only [resume] at taken
    split at taken
    · next phase =>
      obtain ⟨-, rfl⟩ := Machine.of_guard taken
      refine .plain (by rw [phase]; rfl) ?_
      split <;> simp
    · cases taken
  | timeout =>
    simp only [resume] at taken
    split at taken <;> cases taken
    next phase => exact .plain (by rw [phase]; rfl) (by simp)
  | created outcome =>
    simp only [resume] at taken
    split at taken <;> cases taken
    next phase => exact .created phase outcome
  | built outcome =>
    simp only [resume] at taken
    split at taken <;> cases taken
    next phase => exact .built phase outcome
  | drop =>
    obtain ⟨phase, cancelled, notifications⟩ := get
    cases phase with
    | entering | checking | waiting | rechecking | claiming =>
      cases taken
      exact .drop (.inl rfl)
    | tokenless | connecting | building | finishing | updating =>
      cases taken
      exact .drop (.inr rfl)
    | subscribing | notifying | returned | dropped => cases taken

theorem goesOn_resume (taken : s.resume dest call get move = some t) : GoesOn s call t := by
  cases resumes_resume taken with
  | notify => exact ⟨⟨_, .inr rfl⟩, rfl, rfl⟩
  | _ => exact ⟨⟨_, .inl rfl⟩, rfl, rfl⟩

section

variable (listed : s.gets[call]? = some get)
include listed

theorem effect_leave {phase : GetPhase} (creates : creating phase = false) :
    Effect s (.resume call move) (s.setPhase call phase) := by
  have holds : holding phase ≠ true := by
    intro holds
    rw [creating_of_holding holds] at creates
    cases creates
  refine .call (recede_setPhase listed ?_ ?_) rfl rfl
  · intro creating
    rw [creating] at creates
    cases creates
  · intro holding
    exact absurd holding holds

theorem effect_work {phase : GetPhase} (before : holding get.phase = true) :
    Effect s (.resume call move) (s.setPhase call phase) :=
  .call (recede_setPhase listed (fun _ => creating_of_holding before) fun _ => before) rfl rfl

theorem effect_resume (taken : s.resume dest call get move = some t) : Effect s (.resume call move) t := by
  cases resumes_resume taken with
  | plain _ after => obtain rfl | rfl | rfl | ⟨_, rfl⟩ := after <;> exact effect_leave listed rfl
  | found | subscribed | drop => exact effect_leave listed rfl
  | claim phase vacant unmarked => exact .claim listed phase vacant unmarked
  | insertToken phase => exact .insertToken listed phase
  | created phase | built phase => exact effect_work listed (by rw [phase]; rfl)
  | removeToken phase => exact .removeToken listed phase
  | update phase => exact .update listed phase
  | notify =>
    have notified : (s.notifyWaiters call).gets[call]? = some { get with notifications := get.notifications + 1 } :=
      Slots.modify_self listed
    exact .call ((recede_notifyWaiters call).trans (recede_setPhase notified nofun nofun)) rfl rfl

end

theorem taken_of_gets (same : t.gets = s.gets) (token : t.pendingToken = s.pendingToken)
    (entry : t.transport = s.transport ∨ t.transport = none) : Taken s t :=
  ⟨recede_of_gets same, entry, .inl token⟩

@[simp]
def marks : ClosePhase → Bool
  | .marking | .markingCurrent _ | .markingDrained _ => true
  | _ => false

@[simp]
def marked : ClosePhase → Bool
  | .inspecting | .cancelling _ | .removing _ | .removingCurrent _ | .notifying _ | .closing _ _ | .unmarking _ => true
  | _ => false

@[simp]
def unmarks : ClosePhase → Bool
  | .unmarking _ => true
  | _ => false

@[simp]
def struck : ClosePhase → Bool
  | .markingDrained _ | .notifying _ | .closing _ _ => true
  | .unmarking (.ok false) | .returned (.ok false) => false
  | .unmarking _ | .returned _ => true
  | _ => false

@[simp]
def unremoved : ClosePhase → Bool
  | .marking | .inspecting | .cancelling _ | .removing _ => true
  | _ => false

@[simp]
def ofCloseTransport : ClosePhase → Bool
  | .matching _ | .markingCurrent _ | .removingCurrent _ | .drainingTokens | .drainingTransports
  | .markingDrained _ => false
  | _ => true

section Closes

variable {close : Nat} {phase next : ClosePhase}

structure Follows (phase next : ClosePhase) : Prop where
  strikes : struck phase = true → struck next = true
  relies : marked next = true → marked phase = true ∨ marks phase = true
  cleared : unmarks phase = true → marked next = false
  earlier : unremoved next = true → unremoved phase = true
  sort : ofCloseTransport phase = true → ofCloseTransport next = true

structure Removes (s : PeerTransport) (phase next : ClosePhase) : Prop where
  strikes : struck next = true
  removed : unremoved next = false
  before : ofCloseTransport phase = true → unremoved phase = true
  current : ∀ transport, phase = .removingCurrent transport → s.transport = some (.connected transport)

structure CloseFacts (s : PeerTransport) (close : Nat) (phase next : ClosePhase) (t : PeerTransport) : Prop where
  closes : t.closes = s.closes.set close next
  gets : CloseGets s t
  mark : t.isClosing = (marks phase || !unmarks phase && s.isClosing)
  follows : Follows phase next
  entry : t.transport = s.transport ∨ t.transport = none ∧ Removes s phase next
  target : ∀ transport closer, next = .closing transport closer →
    phase = .markingDrained (.connected transport) ∨ s.transport = some (.connected transport) ∧ t.transport = none

theorem CloseFacts.changed (facts : CloseFacts s close phase next t) (changed : t.transport ≠ s.transport) :
    t.transport = none ∧ Removes s phase next :=
  facts.entry.resolve_left changed

theorem CloseFacts.keeps (facts : CloseFacts s close phase next t) (before : unremoved next = true) :
    t.transport = s.transport := by
  rcases facts.entry with same | ⟨-, removes⟩
  · exact same
  · cases removes.removed.symm.trans before

theorem closes_cancelToken (token : Option Nat) : (s.cancelToken token).closes = s.closes := by
  cases token <;> rfl

theorem isClosing_cancelToken (token : Option Nat) : (s.cancelToken token).isClosing = s.isClosing := by
  cases token <;> rfl

theorem closeFacts_plain (closes : t.closes = s.closes.set close next) (gets : CloseGets s t)
    (entry : t.transport = s.transport)
    (mark : t.isClosing = (marks phase || !unmarks phase && s.isClosing)) (follows : Follows phase next)
    (opens : ∀ transport closer, next = .closing transport closer → phase = .markingDrained (.connected transport)) :
    CloseFacts s close phase next t where
  closes := closes
  gets := gets
  mark := mark
  follows := follows
  entry := .inl entry
  target := fun transport closer same => .inl (opens transport closer same)

theorem closeFacts_cancels (mark : marks phase = false ∧ unmarks phase = false) (follows : Follows phase next)
    (unopened : ∀ transport closer, next ≠ .closing transport closer) :
    CloseFacts s close phase next
      { (s.cancelToken s.pendingToken).setClose close next with pendingToken := none } := by
  refine closeFacts_plain ?_ (.cancelled rfl rfl) (transport_cancelToken _) ?_ follows fun transport closer same =>
    absurd same (unopened transport closer)
  · exact congrArg (List.set · close next) (closes_cancelToken s.pendingToken)
  · rw [mark.1, mark.2]
    exact isClosing_cancelToken _

theorem closeFacts_removing (state : DestState) (taken : s.closeStep close outcome (.removing state) = some t) :
    ∃ next, CloseFacts s close (.removing state) next t := by
  cases state with
  | connecting notify =>
    have follows : Follows (.removing (.connecting notify)) (.notifying notify) := by
      constructor <;> simp
    simp only [closeStep] at taken
    split at taken
    · cases taken
      exact ⟨_, rfl, .same rfl rfl, rfl, follows, .inr ⟨rfl, rfl, rfl, fun _ => rfl, by simp⟩, by simp⟩
    · cases taken
      exact ⟨_, closeFacts_plain rfl (.same rfl rfl) rfl rfl follows (by simp)⟩
  | connected transport =>
    cases taken
    unfold closeRemoved
    split
    · next current found =>
      refine ⟨.closing current .closeTransport, rfl, .same rfl rfl, rfl, ?_, .inr ⟨rfl, rfl, rfl, fun _ => rfl, by simp⟩, ?_⟩
      · constructor <;> simp
      · intro transport closer same
        cases same
        exact .inr ⟨found, rfl⟩
    · refine ⟨.unmarking (.ok true), rfl, .same rfl rfl, rfl, ?_, .inr ⟨rfl, rfl, rfl, fun _ => rfl, by simp⟩, by simp⟩
      constructor <;> simp

theorem follows_closed (transport : Nat) (closer : Closer) :
    Follows (.closing transport closer) (closed outcome closer) := by
  cases outcome <;> cases closer <;> constructor <;>
    simp [closed]

theorem closeFacts_closeStep (taken : s.closeStep close outcome phase = some t) :
    ∃ next, CloseFacts s close phase next t := by
  cases phase with
  | marking | markingCurrent =>
    cases taken
    refine ⟨_, closeFacts_plain rfl (.same rfl rfl) rfl rfl ?_ (by simp)⟩
    constructor <;> simp
  | notifying notify =>
    cases taken
    refine ⟨_, closeFacts_plain rfl (.notified notify rfl rfl) rfl rfl ?_ (by simp)⟩
    constructor <;> simp
  | inspecting | matching =>
    simp only [closeStep] at taken
    split at taken <;> cases taken <;>
      refine ⟨_, closeFacts_plain rfl (.same rfl rfl) rfl rfl ?_ (by simp)⟩ <;>
      constructor <;> simp
  | cancelling | drainingTokens =>
    cases taken
    refine ⟨_, closeFacts_cancels ⟨rfl, rfl⟩ ?_ (by simp)⟩
    constructor <;> simp
  | removing state => exact closeFacts_removing state taken
  | removingCurrent transport =>
    simp only [closeStep] at taken
    split at taken
    · next same =>
      cases taken
      refine ⟨.closing transport .closeTransportIfCurrent, rfl, .same rfl rfl, rfl, ?_, .inr ⟨rfl, rfl, rfl, ?_, ?_⟩, ?_⟩
      · constructor <;> simp
      · simp
      · intro other equal
        cases equal
        exact same
      · intro other closer equal
        cases equal
        exact .inr ⟨same, rfl⟩
    · cases taken
      refine ⟨.unmarking (.ok false), closeFacts_plain rfl (.same rfl rfl) rfl rfl ?_ (by simp)⟩
      constructor <;> simp
  | drainingTransports =>
    simp only [closeStep] at taken
    split at taken
    · cases taken
      refine ⟨.markingDrained _, rfl, .same rfl rfl, rfl, ?_, .inr ⟨rfl, rfl, rfl, by simp, by simp⟩, by simp⟩
      constructor <;> simp
    · cases taken
      refine ⟨.returned (.ok true), closeFacts_plain rfl (.same rfl rfl) rfl rfl ?_ (by simp)⟩
      constructor <;> simp
  | markingDrained state =>
    cases taken
    refine ⟨closeDrained state, closeFacts_plain rfl (.same rfl rfl) rfl rfl ?_ ?_⟩
    · cases state <;> constructor <;>
        simp [closeDrained]
    · intro transport closer same
      cases state <;> cases same
      rfl
  | closing transport closer =>
    cases taken
    refine ⟨_, closeFacts_plain rfl (.same rfl rfl) rfl rfl (follows_closed transport closer) ?_⟩
    cases outcome <;> cases closer <;> simp [closed]
  | unmarking result =>
    cases taken
    refine ⟨.returned result, closeFacts_plain rfl (.same rfl rfl) rfl rfl ?_ (by simp)⟩
    cases result with
    | error => constructor <;> simp
    | ok found => cases found <;> constructor <;> simp
  | returned => cases taken

end Closes

theorem taken_closeStep {close : Nat} {phase : ClosePhase}
    (action : s.closeStep close outcome phase = some t) : Taken s t := by
  obtain ⟨_, facts⟩ := closeFacts_closeStep action
  have entry := facts.entry.imp id And.left
  cases facts.gets with
  | same gets token => exact ⟨recede_of_gets gets, entry, .inl token⟩
  | cancelled gets token =>
    exact ⟨(recede_cancelToken s.pendingToken).trans (recede_of_gets gets), entry, .inr token⟩
  | notified notify gets token =>
    exact ⟨(recede_notifyWaiters notify).trans (recede_of_gets gets), entry, .inl token⟩

theorem recede_get : Recede s { s with gets := s.gets ++ [⟨.entering, false, 0⟩] } := by
  intro other
  constructor
  all_goals
    rintro ⟨get, listed, located⟩
    rcases Slots.of_snoc listed with listed | ⟨-, rfl⟩
    · exact ⟨get, listed, located⟩
    · cases located

def isResume : Action → Bool
  | .resume _ _ => true
  | _ => false

theorem effect_outside {action : Action} (other : isResume action = false) (taken : Taken s t) :
    Effect s action t := by
  refine .outside ?_ taken
  rintro call move rfl
  cases other

theorem effect_step {action : Action} (taken : step dest s action = some t) : Effect s action t := by
  cases action with
  | get =>
    cases taken
    apply effect_outside rfl
    exact ⟨recede_get, .inl rfl, .inl rfl⟩
  | closeTransport | closeIfCurrent | closeAll =>
    cases taken
    apply effect_outside rfl
    exact taken_of_gets rfl rfl (.inl rfl)
  | resume call =>
    simp only [step] at taken
    cases listed : s.gets[call]? with
    | none =>
      rw [listed] at taken
      cases taken
    | some =>
      rw [listed] at taken
      exact effect_resume listed taken
  | close close =>
    simp only [step] at taken
    cases listed : s.closes[close]? with
    | none =>
      rw [listed] at taken
      cases taken
    | some =>
      rw [listed] at taken
      exact effect_outside rfl (taken_closeStep taken)
  | monitor =>
    obtain ⟨-, rfl⟩ := Machine.of_guard taken
    apply effect_outside rfl
    exact taken_of_gets rfl rfl (.inr rfl)

end Effects

end Actr.Proof.Transport
