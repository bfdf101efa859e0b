import Actr.Hyper.Transport.SessionClose
import Actr.Proof.Transport.PeerTransport

/-! # What a guarded close takes down -/

namespace Actr.Proof.Transport
open Hyper.Transport Library Machine

variable {dest : String} {close : Nat} {outcome : NetworkResult Unit} {phase next : ClosePhase}

section Closes

variable {s t : PeerTransport} {action : PeerTransport.Action}

inductive PeersStep (s : PeerTransport) : PeerTransport.Action → PeerTransport → Prop
  | close (close : Nat) (phase next : ClosePhase) {outcome : NetworkResult Unit} {t : PeerTransport}
      (found : s.closes[close]? = some phase) (facts : CloseFacts s close phase next t) :
      PeersStep s (.close close outcome) t
  | started {action : PeerTransport.Action} {phase : ClosePhase} {t : PeerTransport}
      (closes : t.closes = s.closes ++ [phase]) (mark : t.isClosing = s.isClosing) (idle : marked phase = false) :
      PeersStep s action t
  | others {action : PeerTransport.Action} {t : PeerTransport} (closes : t.closes = s.closes)
      (mark : t.isClosing = s.isClosing) : PeersStep s action t

theorem closeFacts_step (taken : s.step dest (.close close outcome) = some t) :
    ∃ phase next, s.closes[close]? = some phase ∧ CloseFacts s close phase next t := by
  simp only [PeerTransport.step] at taken
  split at taken
  · next phase found =>
    obtain ⟨next, facts⟩ := closeFacts_closeStep taken
    exact ⟨phase, next, found, facts⟩
  · cases taken

theorem peersStep_step (taken : s.step dest action = some t) : PeersStep s action t := by
  cases action with
  | get =>
    cases taken
    exact .others rfl rfl
  | closeTransport | closeIfCurrent | closeAll =>
    cases taken
    exact .started rfl rfl rfl
  | resume =>
    simp only [PeerTransport.step] at taken
    split at taken
    · have own := goesOn_resume taken
      exact .others own.closes own.mark
    · cases taken
  | close close =>
    obtain ⟨phase, next, found, facts⟩ := closeFacts_step taken
    exact .close close phase next found facts
  | monitor =>
    obtain ⟨-, rfl⟩ := of_guard taken
    exact .others rfl rfl

theorem close_kept (moved : PeersStep s action t) (found : s.closes[close]? = some phase) :
    t.closes[close]? = some phase ∨ ∃ next, t.closes[close]? = some next ∧ CloseFacts s close phase next t := by
  cases moved with
  | close moves old next moving facts =>
    rcases Slots.kept_or_set moving found with ⟨rfl, rfl⟩ | still
    · exact .inr ⟨next, facts.closes ▸ Slots.set_self found, facts⟩
    · exact .inl (facts.closes ▸ still)
  | started closes => exact .inl (closes ▸ Slots.snoc found)
  | others closes => exact .inl (closes ▸ found)

/-! ## The mark -/

def MarkOk (s : PeerTransport) : Prop :=
  ∀ (close : Nat) (phase : ClosePhase), s.closes[close]? = some phase → marked phase = true → s.isClosing = true

def clearsAnother (s : PeerTransport) : PeerTransport.Action → Bool
  | .close close _ => s.closes[close]?.any unmarks && (s.closes.eraseIdx close).any marked
  | _ => false

theorem markOk_close (ok : MarkOk s) (found : s.closes[close]? = some phase)
    (facts : CloseFacts s close phase next t) (alone : clearsAnother s (.close close outcome) = false) :
    MarkOk t := by
  intro other phase' listed relies
  rw [facts.closes] at listed
  rw [facts.mark]
  rcases Slots.of_set listed with ⟨rfl, rfl⟩ | ⟨different, old⟩
  · rcases facts.follows.relies relies with before | sets
    · have still : unmarks phase = false := by
        by_contra clears
        cases (facts.follows.cleared (by simpa using clears)).symm.trans relies
      rw [still, ok other phase found before]
      simp
    · rw [sets]
      rfl
  · have still : unmarks phase = false := by
      by_contra clears
      simp only [clearsAnother, found, Option.any_some, Bool.and_eq_false_iff] at alone
      rcases alone with quiet | none
      · exact clears quiet
      · exact List.any_eq_false.mp none phase' (List.mem_eraseIdx_iff_getElem?.mpr ⟨other, different, old⟩) relies
    rw [still, ok other phase' old relies]
    simp

theorem markOk_step (ok : MarkOk s) (moved : PeersStep s action t)
    (alone : clearsAnother s action = false) : MarkOk t := by
  cases moved with
  | close _ _ _ found facts => exact markOk_close ok found facts alone
  | started closes mark idle =>
    intro other found listed relies
    rw [closes] at listed
    rw [mark]
    rcases Slots.of_snoc listed with old | ⟨-, rfl⟩
    · exact ok other found old relies
    · cases idle.symm.trans relies
  | others closes mark =>
    intro other found listed relies
    rw [closes] at listed
    rw [mark]
    exact ok other found listed relies

end Closes

/-! ## The session of a transport -/

def carries (wires : List (Option SessionWire)) (transport : Nat) (identity : WireIdentity) : Prop :=
  ∃ ready, wires[transport]? = some (some ⟨identity, ready⟩)

def KeepsWires (wires wires' : List (Option SessionWire)) : Prop :=
  ∀ transport identity, carries wires transport identity → carries wires' transport identity

def Sure (s : Destination) (identity : WireIdentity) : Prop :=
  ∀ state, s.peers.transport = some state → ∃ transport, state = .connected transport ∧
    carries s.wires transport identity

structure WaitOk (s : Destination) (identity : WireIdentity) (phase : ClosePhase) : Prop where
  sort : ofCloseTransport phase = true
  sure : unremoved phase = true → Sure s identity
  target : ∀ transport closer, phase = .closing transport closer → carries s.wires transport identity

def GuardPhaseOk (s : Destination) : GuardPhase → Prop
  | .comparing _ .full transport => s.peers.transport = none ∨ s.peers.transport = some (.connected transport)
  | .fetching identity transport | .marking identity transport => carries s.wires transport identity
  | .closingWire identity transport wire => carries s.wires transport identity ∧ wire = identity
  | .closing identity close => ∃ phase, s.peers.closes[close]? = some phase ∧ WaitOk s identity phase
  | _ => True

def acted : GuardPhase → Bool
  | .marking _ _ | .returned (.ok true) => true
  | _ => false

structure GuardOk (s : Destination) : Prop where
  mark : MarkOk s.peers
  phase : ∀ (index : Nat) (phase : GuardPhase), s.guards[index]? = some phase → GuardPhaseOk s phase
  acted : ∀ index, .guarded index ∈ s.touched → ∃ phase, s.guards[index]? = some phase ∧ acted phase = true
  struck : ∀ close, .close close ∈ s.touched → ∃ phase, s.peers.closes[close]? = some phase ∧ struck phase = true

def awaits (closes : List ClosePhase) : GuardPhase → Bool
  | .comparing _ .full _ => true
  | .closing _ close => closes[close]?.any unremoved
  | _ => false

/-- No transport is put into the map under a guarded close. -/
def Steady (s t : Destination) : Prop :=
  s.guards.any (awaits s.peers.closes) = true →
    t.peers.transport = s.peers.transport ∨ t.peers.transport = none
  deriving Decidable

def clearsMark (s : Destination) : Destination.Action → Bool
  | .peers move => clearsAnother s.peers move
  | _ => false

def Apart (s : Destination) (action : Destination.Action) (t : Destination) : Prop :=
  Steady s t ∧ clearsMark s action = false
  deriving Decidable

section Destination

variable {s t : Destination} {action : Destination.Action} {identity : WireIdentity} {transport index : Nat}

theorem keepsWires_snoc (wires : List (Option SessionWire)) (slot : Option SessionWire) :
    KeepsWires wires (wires ++ [slot]) := by
  rintro transport identity ⟨ready, listed⟩
  exact ⟨ready, Slots.snoc listed⟩

theorem keepsWires_unready (wires : List (Option SessionWire)) (transport : Nat) :
    KeepsWires wires (Destination.unready wires transport) := by
  rintro other identity ⟨ready, listed⟩
  by_cases same : transport = other
  · subst same
    exact ⟨false, Slots.modify_self listed⟩
  · exact ⟨ready, (Slots.modify_other same).trans listed⟩

theorem keepsWires_set {wires : List (Option SessionWire)} (free : wires[transport]? = some none)
    (slot : Option SessionWire) : KeepsWires wires (wires.set transport slot) := by
  rintro other identity ⟨ready, listed⟩
  have different : transport ≠ other := by
    rintro rfl
    cases free.symm.trans listed
  exact ⟨ready, (List.getElem?_set_ne different).trans listed⟩

theorem carries_of_matches (same : s.matchesSession transport identity = true) :
    carries s.wires transport identity := ⟨true, by simpa [Destination.matchesSession] using same⟩

theorem Sure.keep (sure : Sure s identity) (wires : KeepsWires s.wires t.wires)
    (entry : t.peers.transport = s.peers.transport ∨ t.peers.transport = none) : Sure t identity := by
  intro state found
  rcases entry with same | gone
  · obtain ⟨transport, rfl, owned⟩ := sure state (same.symm.trans found)
    exact ⟨transport, rfl, wires _ _ owned⟩
  · cases gone.symm.trans found

theorem WaitOk.keep (ok : WaitOk s identity phase) (wires : KeepsWires s.wires t.wires)
    (entry : unremoved phase = true →
      t.peers.transport = s.peers.transport ∨ t.peers.transport = none) : WaitOk t identity phase where
  sort := ok.sort
  sure := fun before => (ok.sure before).keep wires (entry before)
  target := fun transport closer same => wires _ _ (ok.target transport closer same)

theorem WaitOk.move (ok : WaitOk s identity phase)
    (wires : KeepsWires s.wires t.wires) (facts : CloseFacts s.peers close phase next t.peers) :
    WaitOk t identity next where
  sort := facts.follows.sort ok.sort
  sure := fun before => (ok.sure (facts.follows.earlier before)).keep wires (.inl (facts.keeps before))
  target := by
    intro transport closer opens
    rcases facts.target transport closer opens with rfl | ⟨found, gone⟩
    · cases ok.sort
    · obtain ⟨-, removes⟩ := facts.changed (by rw [gone, found]; simp)
      obtain ⟨other, same, owned⟩ := ok.sure (removes.before ok.sort) _ found
      cases same
      exact wires _ _ owned

variable {move : PeerTransport.Action}

theorem guardPhaseOk_keep {phase : GuardPhase} (ok : GuardPhaseOk s phase)
    (moved : PeersStep s.peers move t.peers) (wires : KeepsWires s.wires t.wires)
    (steady : awaits s.peers.closes phase = true →
      t.peers.transport = s.peers.transport ∨ t.peers.transport = none) : GuardPhaseOk t phase := by
  cases phase with
  | looking | returned => trivial
  | comparing identity scope =>
    cases scope with
    | webRtc => trivial
    | full =>
      rcases steady rfl with same | gone
      · unfold GuardPhaseOk
        rw [same]
        exact ok
      · exact .inl gone
  | fetching | marking => exact wires _ _ ok
  | closingWire => exact ⟨wires _ _ ok.1, ok.2⟩
  | closing =>
    obtain ⟨phase, found, waits⟩ := ok
    simp only [awaits, found, Option.any_some] at steady
    rcases close_kept moved found with kept | ⟨next, moves, facts⟩
    · exact ⟨phase, kept, waits.keep wires steady⟩
    · exact ⟨next, moves, waits.move wires facts⟩

/-- A call that has started a close does not answer `false`. -/
structure Advanced (s t : Destination) : Prop where
  ok : GuardOk t
  declined : ∀ index : Nat, t.guards[index]? = some (.returned (.ok false)) →
    ∀ identity close, s.guards[index]? ≠ some (.closing identity close)

theorem advanced_of (ok : GuardOk s) (moved : PeersStep s.peers move t.peers)
    (alone : clearsAnother s.peers move = false) (wires : KeepsWires s.wires t.wires) (steady : Steady s t)
    (guards : ∀ (index : Nat) (phase : GuardPhase), t.guards[index]? = some phase →
      s.guards[index]? = some phase ∨ GuardPhaseOk t phase ∧
        (phase = .returned (.ok false) → ∀ identity close, s.guards[index]? ≠ some (.closing identity close)))
    (acts : ∀ index, .guarded index ∈ t.touched → ∃ phase, t.guards[index]? = some phase ∧ acted phase = true)
    (strikes : ∀ close, .close close ∈ t.touched → .close close ∈ s.touched ∨
      ∃ phase, t.peers.closes[close]? = some phase ∧ struck phase = true) : Advanced s t where
  ok := by
    refine ⟨markOk_step ok.mark moved alone, ?_, acts, ?_⟩
    · intro index phase listed
      rcases guards index phase listed with old | ⟨new, -⟩
      · refine guardPhaseOk_keep (ok.phase index phase old) moved wires fun waits => steady ?_
        exact List.any_eq_true.mpr ⟨phase, List.mem_of_getElem? old, waits⟩
      · exact new
    · intro close touched
      rcases strikes close touched with old | new
      · obtain ⟨phase, found, strikes⟩ := ok.struck close old
        rcases close_kept moved found with kept | ⟨next, moves, facts⟩
        · exact ⟨phase, kept, strikes⟩
        · exact ⟨next, moves, facts.follows.strikes strikes⟩
      · exact new
  declined := by
    intro index declined identity close waiting
    rcases guards index _ declined with same | ⟨-, answers⟩
    · cases same.symm.trans waiting
    · exact answers rfl identity close waiting

theorem advanced_peers (ok : GuardOk s) (apart : Apart s (.peers move) t)
    (moved : PeersStep s.peers move t.peers) (wires : KeepsWires s.wires t.wires) (guards : t.guards = s.guards)
    (touched : ∀ toucher ∈ t.touched, toucher ∈ s.touched ∨ ∃ close phase, toucher = .close close ∧
      t.peers.closes[close]? = some phase ∧ struck phase = true) : Advanced s t := by
  refine advanced_of ok moved apart.2 wires apart.1 ?_ ?_ ?_
  · intro index phase listed
    rw [guards] at listed
    exact .inl listed
  · intro index touches
    rw [guards]
    rcases touched _ touches with old | ⟨_, _, same, _⟩
    · exact ok.acted index old
    · cases same
  · intro close touches
    rcases touched _ touches with old | ⟨_, phase, same, struck⟩
    · exact .inl old
    · cases same
      exact .inr ⟨phase, struck⟩

theorem advanced_turn {phase next : GuardPhase} (ok : GuardOk s) (listed : s.guards[index]? = some phase)
    (guards : t.guards = s.guards.set index next) (moved : PeersStep s.peers .closeTransport t.peers)
    (entry : t.peers.transport = s.peers.transport) (wires : KeepsWires s.wires t.wires) (right : GuardPhaseOk t next)
    (touched : t.touched = s.touched ∧ acted phase = false ∨
      t.touched = s.touched ++ [.guarded index] ∧ acted next = true)
    (answers : next = .returned (.ok false) → ∀ identity close, phase ≠ .closing identity close) : Advanced s t := by
  refine advanced_of ok moved rfl wires (fun _ => .inl entry) ?_ ?_ ?_
  · intro other found placed
    rw [guards] at placed
    rcases Slots.of_set placed with ⟨rfl, rfl⟩ | ⟨-, old⟩
    · refine .inr ⟨right, fun same identity close waiting => answers same identity close ?_⟩
      exact Option.some.inj (listed.symm.trans waiting)
    · exact .inl old
  · intro other touches
    rw [guards]
    by_cases same : index = other
    · subst same
      refine ⟨next, Slots.set_self listed, ?_⟩
      rcases touched with ⟨still, idle⟩ | ⟨-, acts⟩
      · rw [still] at touches
        obtain ⟨found, placed, acts⟩ := ok.acted index touches
        cases listed.symm.trans placed
        cases idle.symm.trans acts
      · exact acts
    · rw [List.getElem?_set_ne same]
      apply ok.acted other
      rcases touched with ⟨still, -⟩ | ⟨more, -⟩
      · rwa [still] at touches
      · rw [more] at touches
        simpa [Ne.symm same] using touches
  · intro close touches
    rcases touched with ⟨still, -⟩ | ⟨more, -⟩
    · exact .inl (still ▸ touches)
    · rw [more] at touches
      simp only [List.mem_append, List.mem_singleton, reduceCtorEq, or_false] at touches
      exact .inl touches

theorem advanced_compare {scope : Scope} (ok : GuardOk s)
    (listed : s.guards[index]? = some (.comparing identity scope transport)) :
    Advanced s (s.compare index identity scope transport) := by
  unfold Destination.compare
  split
  · next same =>
    have owned := carries_of_matches same
    cases scope with
    | webRtc =>
      exact advanced_turn ok listed rfl (.others rfl rfl) rfl (fun _ _ => id) owned (.inl ⟨rfl, rfl⟩) nofun
    | full =>
      refine advanced_turn ok listed rfl (.started rfl rfl rfl) rfl (fun _ _ => id) ?_ (.inl ⟨rfl, rfl⟩) nofun
      refine ⟨.marking, List.getElem?_concat_length, rfl, fun _ => ?_, by simp⟩
      intro state found
      rcases ok.phase index _ listed with gone | here
      · cases gone.symm.trans found
      · cases here.symm.trans found
        exact ⟨transport, rfl, owned⟩
  · exact advanced_turn ok listed rfl (.others rfl rfl) rfl (fun _ _ => id) trivial (.inl ⟨rfl, rfl⟩) nofun

theorem advanced_advance {phase : GuardPhase} (ok : GuardOk s) (listed : s.guards[index]? = some phase)
    (taken : s.advance index phase = some t) : Advanced s t := by
  have right := ok.phase index phase listed
  cases phase with
  | looking identity scope =>
    cases taken
    refine advanced_turn ok listed rfl (.others rfl rfl) rfl (fun _ _ => id) ?_ (.inl ⟨rfl, rfl⟩) nofun
    unfold Destination.look
    split
    · next found =>
      cases scope with
      | webRtc => trivial
      | full => exact .inr found
    · trivial
  | comparing =>
    cases taken
    exact advanced_compare ok listed
  | fetching =>
    cases taken
    refine advanced_turn ok listed rfl (.others rfl rfl) rfl (fun _ _ => id) ?_ (.inl ⟨rfl, rfl⟩) nofun
    unfold Destination.fetch
    split
    · next found =>
      obtain ⟨ready, owned⟩ := right
      cases owned.symm.trans found
      exact ⟨⟨true, owned⟩, rfl⟩
    · trivial
  | closingWire =>
    cases taken
    exact advanced_turn ok listed rfl (.others rfl rfl) rfl (fun _ _ => id) right.1 (.inr ⟨rfl, rfl⟩) nofun
  | marking =>
    cases taken
    exact advanced_turn ok listed rfl (.others rfl rfl) rfl (keepsWires_unready _ _) trivial (.inr ⟨rfl, rfl⟩) nofun
  | closing =>
    simp only [Destination.advance] at taken
    split at taken <;> cases taken <;>
      exact advanced_turn ok listed rfl (.others rfl rfl) rfl (fun _ _ => id) trivial (.inl ⟨rfl, rfl⟩) nofun
  | returned => cases taken

theorem keepsWires_closeWires (close : Nat) : KeepsWires s.wires (s.closeWires close) := by
  unfold Destination.closeWires
  split
  · exact keepsWires_unready _ _
  · exact fun _ _ => id

theorem struck_of_touches {peers : PeerTransport}
    (found : s.peers.closes[close]? = some phase) (facts : CloseFacts s.peers close phase next peers)
    (changed : ¬(s.peers.transport = peers.transport ∧ s.wires = s.closeWires close)) : struck next = true := by
  by_cases same : peers.transport = s.peers.transport
  · have wires : s.wires ≠ s.closeWires close := fun still => changed ⟨same.symm, still⟩
    unfold Destination.closeWires at wires
    rw [found] at wires
    split at wires
    · next closing =>
      cases closing
      exact facts.follows.strikes rfl
    · exact absurd rfl wires
  · exact (facts.changed same).2.strikes

theorem advanced_closes {peers : PeerTransport} (ok : GuardOk s)
    (apart : Apart s (.peers (.close close outcome)) (s.closes close peers))
    (taken : s.peers.step dest (.close close outcome) = some peers) : Advanced s (s.closes close peers) := by
  obtain ⟨phase, next, found, facts⟩ := closeFacts_step taken
  refine advanced_peers ok apart (.close close phase next found facts) (keepsWires_closeWires close) rfl ?_
  intro toucher touches
  simp only [Destination.closes] at touches
  split at touches
  · exact .inl touches
  · next changed =>
    rcases List.mem_append.mp touches with old | new
    · exact .inl old
    · refine .inr ⟨close, next, List.mem_singleton.mp new, ?_, struck_of_touches found facts changed⟩
      exact facts.closes ▸ Slots.set_self found

theorem advanced_outside (ok : GuardOk s) (peers : t.peers = s.peers) (wires : KeepsWires s.wires t.wires)
    (touched : t.touched = s.touched)
    (guards : t.guards = s.guards ∨ ∃ identity scope, t.guards = s.guards ++ [.looking identity scope]) :
    Advanced s t := by
  have moved : PeersStep s.peers .get t.peers := .others (by rw [peers]) (by rw [peers])
  refine advanced_of ok moved rfl wires (fun _ => .inl (by rw [peers])) ?_ ?_ ?_
  · intro index phase listed
    rcases guards with same | ⟨identity, scope, more⟩
    · exact .inl (same ▸ listed)
    · rw [more] at listed
      rcases Slots.of_snoc listed with old | ⟨-, rfl⟩
      · exact .inl old
      · exact .inr ⟨trivial, nofun⟩
  · intro index touches
    obtain ⟨phase, listed, acts⟩ := ok.acted index (touched ▸ touches)
    rcases guards with same | ⟨identity, scope, more⟩
    · exact ⟨phase, same ▸ listed, acts⟩
    · exact ⟨phase, more ▸ Slots.snoc listed, acts⟩
  · intro close touches
    exact .inl (touched ▸ touches)

theorem advanced_step (ok : GuardOk s) (apart : Apart s action t)
    (taken : s.step dest action = some t) : Advanced s t := by
  cases action with
  | peers move =>
    cases move <;> simp only [Destination.step, Option.map_eq_some_iff] at taken <;> obtain ⟨peers, moves, rfl⟩ := taken
    case get => exact advanced_peers ok apart (peersStep_step moves) (keepsWires_snoc _ _) rfl fun _ => .inl
    case close => exact advanced_closes ok apart moves
    all_goals exact advanced_peers ok apart (peersStep_step moves) (fun _ _ => id) rfl fun _ => .inl
  | guardedClose identity scope =>
    cases taken
    exact advanced_outside ok rfl (fun _ _ => id) rfl (.inr ⟨identity, scope, rfl⟩)
  | advance =>
    obtain ⟨phase, listed, moves⟩ := Option.bind_eq_some_iff.mp taken
    exact advanced_advance ok listed moves
  | connected =>
    obtain ⟨free, rfl⟩ := of_guard taken
    exact advanced_outside ok rfl (keepsWires_set free _) rfl (.inl rfl)
  | lost =>
    cases taken
    exact advanced_outside ok rfl (keepsWires_unready _ _) rfl (.inl rfl)

theorem guardOk_initial : GuardOk .initial where
  mark := fun _ _ => nofun
  phase := fun _ _ => nofun
  acted := fun _ => nofun
  struck := fun _ => nofun

/-! ## Guarded closes spare what is not theirs -/

def toucher : Destination.Action → Option Toucher
  | .advance index => some (.guarded index)
  | .peers (.close close _) => some (.close close)
  | _ => none

/-- What a guarded close may do in one step, and what it may say. -/
structure Spares (s : Destination) (action : Destination.Action) (t : Destination) : Prop where
  /-- The full close of a session takes only a transport of that session out of the map. -/
  removal : ∀ (index close : Nat) (identity : WireIdentity) (outcome : NetworkResult Unit),
    s.guards[index]? = some (.closing identity close) → action = .peers (.close close outcome) →
      t.peers.transport ≠ s.peers.transport →
        ∃ transport, s.peers.transport = some (.connected transport) ∧ carries s.wires transport identity
  teardown : ∀ (index close transport : Nat) (identity : WireIdentity) (closer : Closer),
    s.guards[index]? = some (.closing identity close) →
      s.peers.closes[close]? = some (.closing transport closer) → carries s.wires transport identity
  wire : ∀ (index transport : Nat) (identity wire : WireIdentity),
    s.guards[index]? = some (.closingWire identity transport wire) → wire = identity
  pool : ∀ (index transport : Nat) (identity : WireIdentity),
    s.guards[index]? = some (.marking identity transport) → carries s.wires transport identity
  current : ∀ (close transport : Nat) (outcome : NetworkResult Unit), action = .peers (.close close outcome) →
    s.peers.closes[close]? = some (.removingCurrent transport) → t.peers.transport ≠ s.peers.transport →
      s.peers.transport = some (.connected transport) ∧
        ∀ other closer, t.peers.closes[close]? = some (.closing other closer) → other = transport
  /-- A call that answers `false` has changed nothing, and has not started a close either. -/
  declined : ∀ index, t.guards[index]? = some (.returned (.ok false)) → .guarded index ∉ t.touched ∧
    ∀ identity close, s.guards[index]? ≠ some (.closing identity close)
  unchanged : ∀ close, t.peers.closes[close]? = some (.returned (.ok false)) → .close close ∉ t.touched
  /-- A call that is not in `touched` has left the map and the wires as they were. -/
  recorded : ∀ doer, toucher action = some doer → doer ∉ t.touched →
    t.peers.transport = s.peers.transport ∧ t.wires = s.wires
  marked : ∀ (close : Nat) (phase : ClosePhase), t.peers.closes[close]? = some phase → marked phase = true →
    t.peers.isClosing = true

theorem closeFacts_peers (taken : s.step dest (.peers (.close close outcome)) = some t) :
    ∃ phase next, s.peers.closes[close]? = some phase ∧ CloseFacts s.peers close phase next t.peers := by
  obtain ⟨peers, moves, rfl⟩ := Option.map_eq_some_iff.mp taken
  exact closeFacts_step moves

theorem removal_of_guardOk (ok : GuardOk s) (taken : s.step dest (.peers (.close close outcome)) = some t)
    (listed : s.guards[index]? = some (.closing identity close)) (changed : t.peers.transport ≠ s.peers.transport) :
    ∃ transport, s.peers.transport = some (.connected transport) ∧ carries s.wires transport identity := by
  obtain ⟨phase, next, found, facts⟩ := closeFacts_peers taken
  obtain ⟨waiting, placed, waits⟩ := ok.phase index _ listed
  cases found.symm.trans placed
  obtain ⟨gone, removes⟩ := facts.changed changed
  cases entry : s.peers.transport with
  | none => exact absurd (gone.trans entry.symm) changed
  | some state =>
    obtain ⟨transport, rfl, owned⟩ := waits.sure (removes.before waits.sort) state entry
    exact ⟨transport, rfl, owned⟩

theorem current_of_closeFacts (listed : s.peers.closes[close]? = some (.removingCurrent transport))
    (facts : CloseFacts s.peers close (.removingCurrent transport) next t.peers)
    (changed : t.peers.transport ≠ s.peers.transport) :
    s.peers.transport = some (.connected transport) ∧
      ∀ other closer, t.peers.closes[close]? = some (.closing other closer) → other = transport := by
  have own := (facts.changed changed).2.current transport rfl
  refine ⟨own, fun other closer opened => ?_⟩
  rw [facts.closes, Slots.set_self listed] at opened
  rcases facts.target other closer (Option.some.inj opened) with drained | ⟨found, -⟩
  · cases drained
  · cases own.symm.trans found
    rfl

theorem kept_of_untouched_advance {phase : GuardPhase} (taken : s.advance index phase = some t)
    (untouched : .guarded index ∉ t.touched) : t.peers.transport = s.peers.transport ∧ t.wires = s.wires := by
  cases phase with
  | looking | fetching =>
    cases taken
    exact ⟨rfl, rfl⟩
  | comparing _ scope =>
    cases taken
    unfold Destination.compare
    split
    · cases scope <;> exact ⟨rfl, rfl⟩
    · exact ⟨rfl, rfl⟩
  | closingWire | marking =>
    cases taken
    exact absurd List.mem_concat_self untouched
  | closing =>
    simp only [Destination.advance] at taken
    split at taken <;> cases taken <;> exact ⟨rfl, rfl⟩
  | returned => cases taken

theorem kept_of_untouched {doer : Toucher} (taken : s.step dest action = some t) (acts : toucher action = some doer)
    (untouched : doer ∉ t.touched) : t.peers.transport = s.peers.transport ∧ t.wires = s.wires := by
  simp only [toucher] at acts
  split at acts <;> cases acts
  · obtain ⟨phase, -, moves⟩ := Option.bind_eq_some_iff.mp taken
    exact kept_of_untouched_advance moves untouched
  · next close _ =>
    obtain ⟨peers, -, rfl⟩ := Option.map_eq_some_iff.mp taken
    by_cases same : s.peers.transport = peers.transport ∧ s.wires = s.closeWires close
    · exact ⟨same.1.symm, same.2.symm⟩
    · exact absurd (by simp [Destination.closes, same]) untouched

theorem spares_step (ok : GuardOk s) (next : Advanced s t)
    (taken : s.step dest action = some t) : Spares s action t := by
  constructor
  case removal =>
    intro index close identity outcome listed same changed
    subst same
    exact removal_of_guardOk ok taken listed changed
  case teardown =>
    intro index close transport identity closer listed opened
    obtain ⟨phase, found, waits⟩ := ok.phase index _ listed
    cases found.symm.trans opened
    exact waits.target transport closer rfl
  case wire =>
    intro index transport identity wire listed
    exact (ok.phase index _ listed).2
  case pool =>
    intro index transport identity listed
    exact ok.phase index _ listed
  case current =>
    intro close transport outcome same listed changed
    subst same
    obtain ⟨phase, next, found, facts⟩ := closeFacts_peers taken
    cases listed.symm.trans found
    exact current_of_closeFacts listed facts changed
  case declined =>
    intro index declined
    refine ⟨fun touches => ?_, next.declined index declined⟩
    obtain ⟨phase, listed, acts⟩ := next.ok.acted index touches
    cases declined.symm.trans listed
    cases acts
  case unchanged =>
    intro close declined touches
    obtain ⟨phase, listed, strikes⟩ := next.ok.struck close touches
    cases declined.symm.trans listed
    cases strikes
  case recorded => exact fun _ => kept_of_untouched taken
  case marked => exact next.ok.mark

end Destination

theorem guarded_closes_spare (dest : String) (actions : List Destination.Action)
    (apart : Along (Destination.step dest) Apart .initial actions) :
    Along (Destination.step dest) Spares .initial actions := by
  refine along_of_guarded guardOk_initial ?_ apart
  intro s action t ok apart taken
  have next := advanced_step ok apart taken
  exact ⟨spares_step ok next taken, next.ok⟩

def sessionOf (session : UInt64) : WireIdentity := .webRtc ⟨⟨1⟩, 7, ⟨"acme", "echo", "1"⟩⟩ session

def bringsUp (call : Nat) (identity : WireIdentity) : List Destination.Action :=
  [.peers .get, .peers (.resume call .advance), .peers (.resume call .advance), .peers (.resume call .advance),
    .peers (.resume call .advance), .peers (.resume call (.created (.ok 1))),
    .peers (.resume call (.built (.ok ()))), .peers (.resume call .advance), .peers (.resume call .advance),
    .peers (.resume call .advance), .connected call identity]

def closesBy (close sections : Nat) : List Destination.Action :=
  List.replicate sections (.peers (.close close (.ok ())))

def comparesSession (identity : WireIdentity) : List Destination.Action :=
  [.guardedClose identity .full, .advance 0, .advance 0]

def guardReturns (result : Bool) : GuardPhase → Bool
  | .returned (.ok answer) => answer = result
  | _ => false

def waitsFor (identity : WireIdentity) (close : Nat) : GuardPhase → Bool
  | .closing session other => session = identity ∧ other = close
  | _ => false

def closeReturns (result : Bool) : ClosePhase → Bool
  | .returned (.ok answer) => answer = result
  | _ => false

def closesSession : List Destination.Action :=
  bringsUp 0 (sessionOf 1) ++ comparesSession (sessionOf 1) ++ closesBy 0 6 ++ [.advance 0]

theorem guarded_closes_spare_of_one : Along (Destination.step "Host") Apart .initial closesSession ∧
      Along (Destination.step "Host") Spares .initial closesSession ∧
      ∃ s, exec (Destination.step "Host") .initial closesSession = some s ∧ s.peers.transport = none ∧
        s.guards.map (guardReturns true) = [true] := by
  have apart : Along (Destination.step "Host") Apart .initial closesSession := by decide +kernel
  exact ⟨apart, guarded_closes_spare "Host" _ apart, exec_of_any (by decide +kernel)⟩

def replacesCompared : List Destination.Action :=
  bringsUp 0 (sessionOf 1) ++ comparesSession (sessionOf 1) ++ [.peers .closeTransport] ++ closesBy 1 6 ++
    bringsUp 1 (sessionOf 2) ++ closesBy 0 3

def unmarksFullClose : List Destination.Action :=
  bringsUp 0 (sessionOf 1) ++ [.peers (.closeIfCurrent 0)] ++ closesBy 0 1 ++ [.peers .closeTransport] ++ closesBy 1 4 ++
    closesBy 0 3

theorem guarded_closes_hit_replacement : (∃ s, exec (Destination.step "Host") .initial replacesCompared = some s ∧
      s.guards.map (waitsFor (sessionOf 1) 0) = [true] ∧ s.peers.transport = some (.connected 1) ∧
      s.matchesSession 1 (sessionOf 2) = true) ∧
    (∃ s, exec (Destination.step "Host") .initial (replacesCompared ++ closesBy 0 1) = some s ∧
      s.peers.transport = none ∧ .close 0 ∈ s.touched) ∧
    ∃ s, exec (Destination.step "Host") .initial unmarksFullClose = some s ∧
      s.peers.closes.map (closeReturns false) = [true, false] ∧ s.peers.closes.map marked = [false, true] ∧
      s.peers.isClosing = false := by
  exact ⟨exec_of_any (by decide +kernel), exec_of_any (by decide +kernel), exec_of_any (by decide +kernel)⟩

end Actr.Proof.Transport
