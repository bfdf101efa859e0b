import Actr.Proof.Transport.PeerTransport

/-! # Single flight of the creation of a transport -/

namespace Actr.Proof.Transport
open Hyper.Transport PeerTransport Library.Machine

def finishes : GetPhase → Bool
  | .finishing _ | .updating _ | .notifying _ => true
  | _ => false

def SingleFlight (s : PeerTransport) : Prop :=
  ∀ first second, At s creating first → At s creating second → first = second

def OwnOnly (s t : PeerTransport) (call : Nat) : Prop :=
  (∀ token, s.pendingToken = some token → t.pendingToken ≠ some token → token = call) ∧
  (∀ state, s.transport = some state → t.transport ≠ some state → state = .connecting call)

/-- At most one creator, which takes out only what is its own. -/
def Disciplined (s : PeerTransport) (action : Action) (t : PeerTransport) : Prop :=
  SingleFlight t ∧ ∀ call move, action = .resume call move → At s finishes call → OwnOnly s t call

def Inserts (s t : PeerTransport) (call : Nat) : Prop :=
  t.transport = some (.connecting call) ∧ s.transport ≠ some (.connecting call)

def Orphaned (s : PeerTransport) (call : Nat) : Prop :=
  At s creating call ∧ s.transport ≠ some (.connecting call)

def Undisturbed (s : PeerTransport) (_ : Action) (t : PeerTransport) : Prop :=
  ∀ call, Inserts s t call → ∀ other, ¬ Orphaned s other

structure Alone (s : PeerTransport) : Prop where
  single : SingleFlight s
  entry : ∀ call, At s creating call → s.transport = none ∨ s.transport = some (.connecting call)
  token : ∀ call, At s holding call → s.pendingToken = none ∨ s.pendingToken = some call

theorem alone_initial : Alone initial := by
  constructor
  · rintro first second ⟨get, listed, -⟩
    cases listed
  · rintro call ⟨get, listed, -⟩
    cases listed
  · rintro call ⟨get, listed, -⟩
    cases listed

section Steps

variable {s t : PeerTransport} {action : Action} {call : Nat} {get : Get} {move : GetStep}
variable {result : NetworkResult Unit}

theorem single_of_recede (single : SingleFlight s) (recede : Recede s t) : SingleFlight t := by
  intro first second creates also
  exact single first second ((recede first).1 creates) ((recede second).1 also)

theorem Alone.taken (alone : Alone s) (taken : Taken s t) : Alone t := by
  constructor
  · exact single_of_recede alone.single taken.recede
  · intro call creates
    rcases taken.entry with same | gone
    · rw [same]
      exact alone.entry call ((taken.recede call).1 creates)
    · exact .inl gone
  · intro call holds
    rcases taken.token with same | gone
    · rw [same]
      exact alone.token call ((taken.recede call).2 holds)
    · exact .inl gone

theorem ownOnly_of_same (token : t.pendingToken = s.pendingToken) (entry : t.transport = s.transport) :
    OwnOnly s t call := by
  constructor
  · intro inserted before after
    exact absurd (token.trans before) after
  · intro state before after
    exact absurd (entry.trans before) after

theorem undisturbed_of_entry (entry : t.transport = s.transport ∨ ∀ call, t.transport ≠ some (.connecting call)) :
    Undisturbed s action t := by
  rintro call ⟨inserted, new⟩
  rcases entry with same | never
  · rw [same] at inserted
    exact absurd inserted new
  · exact absurd inserted (never call)

theorem ownOnly_of_finishes {places : GetPhase} (listed : s.gets[call]? = some get)
    (phase : get.phase = places) (finished : finishes places = false) (own : At s finishes call) :
    OwnOnly s t call := by
  rw [at_iff listed, phase, finished] at own
  cases own

theorem recede_removeToken (listed : s.gets[call]? = some get) (phase : get.phase = .finishing result) :
    Recede s { s.setPhase call (.updating result) with pendingToken := none } := by
  have before : holding get.phase = true := by rw [phase]; rfl
  exact recede_setPhase listed (fun _ => creating_of_holding before) fun _ => before

theorem recede_update (listed : s.gets[call]? = some get) : Recede s (s.update call result) :=
  recede_setPhase listed nofun nofun

theorem ownOnly_removeToken (alone : Alone s) (listed : s.gets[call]? = some get)
    (phase : get.phase = .finishing result) :
    OwnOnly s { s.setPhase call (.updating result) with pendingToken := none } call := by
  constructor
  · intro token before _
    have holds : At s holding call := (at_iff listed).mpr (by rw [phase]; rfl)
    rcases alone.token call holds with none | own
    · rw [none] at before
      cases before
    · rw [own] at before
      cases before
      rfl
  · intro state before after
    exact absurd before after

theorem ownOnly_update (alone : Alone s) (listed : s.gets[call]? = some get) (phase : get.phase = .updating result) :
    OwnOnly s (s.update call result) call := by
  constructor
  · intro token before after
    exact absurd before after
  · intro state before _
    have creates : At s creating call := (at_iff listed).mpr (by rw [phase]; rfl)
    rcases alone.entry call creates with none | own
    · rw [none] at before
      cases before
    · rw [own] at before
      cases before
      rfl

theorem update_never_connecting (other : Nat) : (s.update call result).transport ≠ some (.connecting other) := by
  cases result with
  | ok | error => nofun

theorem not_creating_after_update (alone : Alone s) (listed : s.gets[call]? = some get)
    (phase : get.phase = .updating result) (other : Nat) : ¬ At (s.update call result) creating other := by
  intro creates
  have creating : At s creating call := (at_iff listed).mpr (by rw [phase]; rfl)
  have same : other = call := alone.single other call ((recede_update listed other).1 creates) creating
  subst same
  exact Bool.false_ne_true ((at_setPhase_self listed).mp creates)

theorem claim_undisturbed_iff (vacant : s.transport = none) :
    Undisturbed s action { s.setPhase call .tokenless with transport := some (.connecting call) } ↔
      ∀ other, ¬ At s creating other := by
  -- An insertion finds the map empty, so an orphan is just another creator.
  have inserts : Inserts s { s.setPhase call .tokenless with transport := some (.connecting call) } call := by
    refine ⟨rfl, ?_⟩
    rw [vacant]
    nofun
  constructor
  · intro undisturbed other creates
    refine undisturbed call inserts other ⟨creates, ?_⟩
    rw [vacant]
    nofun
  · intro none taker _ other orphaned
    exact none other orphaned.1

theorem claim_single_iff (listed : s.gets[call]? = some get) (phase : get.phase = .claiming) :
    SingleFlight { s.setPhase call .tokenless with transport := some (.connecting call) } ↔
      ∀ other, ¬ At s creating other := by
  have claims : At (s.setPhase call .tokenless) creating call := (at_setPhase_self listed).mpr rfl
  have before : ¬ At s creating call := by
    rw [at_iff listed, phase]
    exact Bool.false_ne_true
  constructor
  · intro single other creates
    by_cases same : call = other
    · subst same
      exact before creates
    · exact same (single call other claims ((at_setPhase_other same).mpr creates))
  · intro none first second creates also
    have own : ∀ other, At (s.setPhase call .tokenless) creating other → call = other := by
      intro other creates
      by_contra different
      exact none other ((at_setPhase_other different).mp creates)
    exact (own first creates).symm.trans (own second also)

theorem alone_claim (listed : s.gets[call]? = some get) (none : ∀ other, ¬ At s creating other)
    (single : SingleFlight { s.setPhase call .tokenless with transport := some (.connecting call) }) :
    Alone { s.setPhase call .tokenless with transport := some (.connecting call) } := by
  have claims : At (s.setPhase call .tokenless) creating call := (at_setPhase_self listed).mpr rfl
  constructor
  · exact single
  · intro other creates
    rw [single other call creates claims]
    exact .inr rfl
  · intro other holds
    have never : holding GetPhase.tokenless = true → holding get.phase = true := nofun
    have before : At s holding other := at_of_setPhase listed never holds
    exact absurd (at_creating_of_holding before) (none other)

theorem alone_insertToken (alone : Alone s) (listed : s.gets[call]? = some get) (phase : get.phase = .tokenless) :
    Alone { s.setPhase call .connecting with pendingToken := some call } := by
  have creates : creating get.phase = true := by rw [phase]; rfl
  have back : ∀ other, At (s.setPhase call .connecting) creating other → At s creating other := by
    intro other
    exact at_of_setPhase listed fun _ => creates
  constructor
  · intro first second located also
    exact alone.single first second (back first located) (back second also)
  · intro other located
    exact alone.entry other (back other located)
  · intro other holds
    have located := back other (at_creating_of_holding holds)
    rw [alone.single other call located ((at_iff listed).mpr creates)]
    exact .inr rfl

theorem disciplined_of_recede (alone : Alone s) (recede : Recede s t) (own : At s finishes call → OwnOnly s t call) :
    Disciplined s (.resume call move) t := by
  refine ⟨single_of_recede alone.single recede, ?_⟩
  intro other again same finished
  cases same
  exact own finished

theorem disciplined_iff (alone : Alone s) (effect : Effect s action t) :
    Disciplined s action t ↔ Undisturbed s action t := by
  cases effect with
  | call recede entry token =>
    apply iff_of_true
    · exact disciplined_of_recede alone recede fun _ => ownOnly_of_same token entry
    · exact undisturbed_of_entry (.inl entry)
  | outside other taken =>
    apply iff_of_true
    · refine ⟨single_of_recede alone.single taken.recede, ?_⟩
      intro call move same
      exact absurd same (other call move)
    · apply undisturbed_of_entry
      rcases taken.entry with same | gone
      · exact .inl same
      · right
        intro call
        rw [gone]
        nofun
  | claim listed phase vacant =>
    -- the only step that can make a second creator, and the only insertion
    rw [claim_undisturbed_iff vacant, ← claim_single_iff listed phase]
    apply and_iff_left
    intro call move same finished
    cases same
    exact ownOnly_of_finishes listed phase rfl finished
  | insertToken listed phase =>
    refine iff_of_true ⟨(alone_insertToken alone listed phase).single, ?_⟩ (undisturbed_of_entry (.inl rfl))
    intro call move same finished
    cases same
    exact ownOnly_of_finishes listed phase rfl finished
  | removeToken listed phase =>
    have own := ownOnly_removeToken alone listed phase
    exact iff_of_true (disciplined_of_recede alone (recede_removeToken listed phase) fun _ => own)
      (undisturbed_of_entry (.inl rfl))
  | update listed phase =>
    have own := ownOnly_update alone listed phase
    exact iff_of_true (disciplined_of_recede alone (recede_update listed) fun _ => own)
      (undisturbed_of_entry (.inr update_never_connecting))

theorem alone_step (alone : Alone s) (effect : Effect s action t) (undisturbed : Undisturbed s action t) :
    Alone t := by
  cases effect with
  | call recede entry token => exact alone.taken ⟨recede, .inl entry, .inl token⟩
  | outside other taken => exact alone.taken taken
  | claim listed phase vacant =>
    have none := (claim_undisturbed_iff vacant).mp undisturbed
    exact alone_claim listed none ((claim_single_iff listed phase).mpr none)
  | insertToken listed phase => exact alone_insertToken alone listed phase
  | removeToken listed phase => exact alone.taken ⟨recede_removeToken listed phase, .inl rfl, .inr rfl⟩
  | update listed phase =>
    -- the entry may now be a transport, but its creator was the only one
    have gone := not_creating_after_update alone listed phase
    constructor
    · intro first second creates
      exact absurd creates (gone first)
    · intro call creates
      exact absurd creates (gone call)
    · intro call holds
      exact absurd (at_creating_of_holding holds) (gone call)

end Steps

section Results

theorem single_flight_iff_undisturbed (dest : String) (actions : List Action) :
    Along (step dest) Disciplined initial actions ↔ Along (step dest) Undisturbed initial actions := by
  apply along_iff alone_initial
  · intro s action t alone taken
    exact disciplined_iff alone (effect_step taken)
  · intro s action t alone taken undisturbed
    exact alone_step alone (effect_step taken) undisturbed

def overtaken : List Action :=
  let become (call : Nat) : List Action := .get :: List.replicate 4 (.resume call .advance)
  let close : List Action := .closeTransport :: List.replicate 6 (.close 0 (.ok ()))
  become 0 ++ close ++ become 1 ++ [.resume 0 (.created (.ok 1))]

theorem overtaken_creator_clears_later_entry : ∃ overlap removed cleared : PeerTransport,
      exec (step "Host") initial overtaken = some overlap ∧ At overlap creating 0 ∧ At overlap creating 1 ∧
      overlap.pendingToken = some 1 ∧ overlap.transport = some (.connecting 1) ∧
      step "Host" overlap (.resume 0 .advance) = some removed ∧ removed.pendingToken = none ∧
      step "Host" removed (.resume 0 .advance) = some cleared ∧ cleared.transport = none ∧
      ¬ Along (step "Host") Disciplined initial (overtaken ++ [.resume 0 .advance]) := by
  refine ⟨_, _, _, rfl, ⟨_, rfl, rfl⟩, ⟨_, rfl, rfl⟩, rfl, rfl, rfl, rfl, rfl, rfl, ?_⟩
  intro along
  have disciplined := along_at along rfl rfl
  have own := (disciplined.2 0 .advance rfl ⟨_, rfl, rfl⟩).1 1 rfl nofun
  cases own

end Results

end Actr.Proof.Transport
