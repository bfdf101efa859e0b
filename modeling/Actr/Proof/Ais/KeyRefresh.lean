import Actr.Actrix.Ais.KeyRefresh

/-! # The key in the cache and the key in the row -/

namespace Actr.Proof.Ais
open Actrix Actrix.Ais Issuer Actrix.Platform Library Machine

/-- The places of a call and the events that take it on. -/
inductive Turn : RefreshPhase → Event → Prop
  | looked : Turn .checking .looked
  | fetched : Turn .fetching .fetched
  | compared {record : KeyRecord} {now : UInt64} : Turn (.comparing record) (.compared now)
  | loaded {record : KeyRecord} : Turn (.loading record) .loaded
  | generated {record : KeyRecord} : Turn .generating (.generated record)
  | invalidKey {error : String} : Turn .generating (.invalidKey error)
  | cached {record : KeyRecord} : Turn (.caching record) .cached
  | saved {record : KeyRecord} : Turn (.saving record) .saved
  | read : Turn .reading .read
  | failed {phase : RefreshPhase} {error text : String} (fails : failure error phase = some text) :
      Turn phase (.failed error)

theorem turn_of_resume {s t : Issuer} {refresh after : Refresh} {event : Event}
    (resumed : s.resume refresh event = some (t, after)) : Turn refresh.phase event := by
  obtain ⟨caller, phase, generated, cached⟩ := refresh
  simp only [resume] at resumed
  split at resumed
  case h_10 =>
    obtain ⟨text, fails, -⟩ := Option.map_eq_some_iff.mp resumed
    exact .failed fails
  case h_11 => cases resumed
  all_goals constructor

/-! ## Keys that never expire -/

section Never

variable {record : KeyRecord} {now : UInt64}

/-- No call writes another key to the cache. -/
def SparesKey (record : KeyRecord) (s : Issuer) (action : Issuer.Action) (_ : Issuer) : Prop :=
  ∀ index refresh, action = .refresh index .cached → s.refreshes[index]? = some refresh → refresh.phase = .caching record

def carried : RefreshPhase → Option KeyRecord
  | .comparing record | .loading record | .saving record => some record
  | _ => none

/-- Only this key is in use, or on its way from the row or to it. -/
structure Uses (record : KeyRecord) (s : Issuer) : Prop where
  cache : ∀ key ∈ s.keyCache, key = record
  row : s.currentKey = some record
  calls : ∀ refresh ∈ s.refreshes, ∀ key ∈ carried refresh.phase, key = record

theorem shouldRefresh_never (never : record.expiresAt = 0) : shouldRefresh (some record) now = true := by
  simp [shouldRefresh, never]

theorem not_expired_iff (never : record.expiresAt = 0) :
    Authority.isExpiredBeyondTolerance record now = false ↔ now ≤ record.toleranceSeconds := by
  simp [Authority.isExpiredBeyondTolerance, never]

theorem uses_initial : Uses record (initial (some record)) := ⟨nofun, rfl, by simp [initial, carried]⟩

theorem uses_start {s : Issuer} {caller : Caller} {phase : RefreshPhase} (uses : Uses record s)
    (early : carried phase = none) : Uses record (s.start caller phase) where
  cache := uses.cache
  row := uses.row
  calls := by
    intro refresh member key carries
    rcases Slots.mem_snoc member with old | rfl
    · exact uses.calls refresh old key carries
    · cases early.symm.trans carries

theorem uses_resume {s t : Issuer} {refresh after : Refresh} {event : Event} (uses : Uses record s)
    (own : ∀ key ∈ carried refresh.phase, key = record) (resumed : s.resume refresh event = some (t, after)) :
    ((∀ key ∈ t.keyCache, key = record) ↔ (event = .cached → refresh.phase = .caching record)) ∧
      ((∀ key ∈ t.keyCache, key = record) →
        t.currentKey = some record ∧ ∀ key ∈ carried after.phase, key = record) := by
  have turn := turn_of_resume resumed
  obtain ⟨caller, phase, generated, cached⟩ := refresh
  cases turn with
  | looked =>
    cases resumed
    refine ⟨⟨nofun, fun _ => uses.cache⟩, fun _ => ⟨uses.row, ?_⟩⟩
    split <;> exact nofun
  | fetched =>
    cases resumed
    refine ⟨⟨nofun, fun _ => uses.cache⟩, fun _ => ⟨uses.row, ?_⟩⟩
    rw [uses.row]
    rintro key ⟨⟩
    rfl
  | compared =>
    cases resumed
    refine ⟨⟨nofun, fun _ => uses.cache⟩, fun _ => ⟨uses.row, ?_⟩⟩
    split
    · exact nofun
    · exact own
  | loaded =>
    cases resumed
    exact ⟨⟨nofun, fun _ => own⟩, fun _ => ⟨uses.row, nofun⟩⟩
  | generated | invalidKey | read =>
    cases resumed
    exact ⟨⟨nofun, fun _ => uses.cache⟩, fun _ => ⟨uses.row, nofun⟩⟩
  | cached =>
    cases resumed
    refine ⟨⟨fun only _ => congrArg _ (only _ rfl), fun same key member => ?_⟩, fun only => ⟨uses.row, only⟩⟩
    cases same rfl
    exact Option.some.inj member.symm
  | saved =>
    cases resumed
    refine ⟨⟨nofun, fun _ => uses.cache⟩, fun _ => ⟨congrArg some (own _ rfl), ?_⟩⟩
    split <;> exact nofun
  | failed fails =>
    cases phase <;> cases fails <;> cases resumed <;>
      exact ⟨⟨nofun, fun _ => uses.cache⟩, fun _ => ⟨uses.row, nofun⟩⟩

theorem uses_step {s t : Issuer} {action : Issuer.Action} (uses : Uses record s) (taken : s.step action = some t) :
    ((∀ key ∈ t.keyCache, key = record) ↔ SparesKey record s action t) ∧
      (SparesKey record s action t → Uses record t) := by
  cases action with
  | tick =>
    obtain ⟨-, rfl⟩ := of_guard taken
    split
    · exact ⟨⟨fun _ => nofun, fun _ => uses.cache⟩, fun _ => uses_start uses rfl⟩
    · exact ⟨⟨fun _ => nofun, fun _ => uses.cache⟩, fun _ => uses⟩
  | rotateKey | ensureKeyLoaded =>
    obtain ⟨-, rfl⟩ := of_guard taken
    exact ⟨⟨fun _ => nofun, fun _ => uses.cache⟩, fun _ => uses_start uses rfl⟩
  | restart =>
    cases taken
    rw [uses.row]
    exact ⟨⟨fun _ => nofun, fun _ => nofun⟩, fun _ => uses_initial⟩
  | refresh index event =>
    obtain ⟨refresh, found, taken⟩ := Option.bind_eq_some_iff.mp taken
    obtain ⟨⟨t, after⟩, resumed, rfl⟩ := Option.map_eq_some_iff.mp taken
    obtain ⟨agree, kept⟩ := uses_resume uses (uses.calls refresh (List.mem_of_getElem? found)) resumed
    have spared : SparesKey record s (.refresh index event) { t with refreshes := s.refreshes.set index after } ↔
        (event = .cached → refresh.phase = .caching record) := by
      simp only [SparesKey, Issuer.Action.refresh.injEq]
      grind
    refine ⟨agree.trans spared.symm, fun spares => ?_⟩
    have only := agree.mpr (spared.mp spares)
    obtain ⟨row, carries⟩ := kept only
    refine ⟨only, row, fun other member => ?_⟩
    rcases List.mem_or_eq_of_mem_set member with old | rfl
    · exact uses.calls other old
    · exact carries

theorem getCachedKey_never {cache : KeyCache} {keyId : Nat} {row : KeyRow} (found : cache.rows.lookup keyId = some row)
    (never : row.expiresAt = 0) : (cache.getCachedKey keyId now).1 = some (row.pubkey, 0) := by
  have kept : (cache.maybeCleanup now).rows.lookup keyId = some row := by
    unfold KeyCache.maybeCleanup
    split
    · simp [KeyCache.cleanupExpiredKeys, Maps.lookup_retain, found, never]
    · exact found
  simp only [KeyCache.getCachedKey, kept, never, Int64.lt_irrefl, false_and, if_false]
  rfl

end Never

def neverExpiring (keyId : Nat) : KeyRecord := ⟨keyId, [], 0, 86400⟩

/-- The start of a process that finds a key in the row and loads it at the time `now`. -/
def loads (now : UInt64) : List Issuer.Action :=
  [.refresh 0 .looked, .refresh 0 .fetched, .refresh 0 (.compared now), .refresh 0 .loaded]

section Overlap

variable {s t : Issuer} {refresh after : Refresh} {index : Nat} {cache row : Option KeyRecord}

def writes (refresh : Refresh) : Bool :=
  match refresh.phase with
  | .saving _ | .reading => true
  | _ => false

def busy (refresh : Refresh) : Bool :=
  match refresh.phase with
  | .fetching | .comparing _ | .loading _ => true
  | _ => writes refresh

/-- No call writes the cache while another is between its own write and its end or loads the row, no write of the row
fails, and no other failure leaves the cache empty beside a row. -/
def alone (s : Issuer) : Issuer.Action → Bool
  | .refresh _ .cached => s.refreshes.all fun refresh => !busy refresh
  | .refresh index (.failed _) | .refresh index (.invalidKey _) =>
    s.refreshes[index]?.all (!writes ·) && (s.keyCache.isSome || s.currentKey.isNone)
  | _ => true

structure InStep (s : Issuer) : Prop where
  agrees : (∀ refresh ∈ s.refreshes, refresh.isReturned = true) → s.keyCache = s.currentKey
  failed : ∀ refresh ∈ s.refreshes, ∀ error, refresh.phase = .returned (.error error) → refresh.cached = false
  own : ∀ refresh ∈ s.refreshes, ∀ keyId, refresh.phase = .returned (.ok (some keyId)) →
    refresh.generated.map KeyRecord.keyId = some keyId

def RefreshOk (cache row : Option KeyRecord) (refresh : Refresh) : Prop :=
  match refresh.phase with
  | .checking | .fetching | .generating | .returned (.error _) => refresh.cached = false
  | .comparing record | .loading record => refresh.cached = false ∧ row = some record
  | .caching record => refresh.cached = false ∧ refresh.generated = some record
  | .saving record => refresh.generated = some record ∧ cache = some record
  | .reading => (∃ record, refresh.generated = some record ∧ cache = some record) ∧ cache = row
  | .returned (.ok none) => True
  | .returned (.ok (some keyId)) => refresh.generated.map KeyRecord.keyId = some keyId

structure Orderly (s : Issuer) : Prop where
  each : ∀ refresh ∈ s.refreshes, RefreshOk s.keyCache s.currentKey refresh
  exclusive : ∀ (i j : Nat) (first second : Refresh), s.refreshes[i]? = some first → s.refreshes[j]? = some second →
    writes first = true → busy second = true → i = j
  quiet : (∀ refresh ∈ s.refreshes, writes refresh = false) → s.keyCache = s.currentKey ∨ s.keyCache = none
  started : s.started = true → s.keyCache = none → s.currentKey = none

theorem RefreshOk.elsewhere (ok : RefreshOk s.keyCache s.currentKey refresh) (idle : writes refresh = false)
    (same : busy refresh = true → row = s.currentKey) : RefreshOk cache row refresh := by
  obtain ⟨caller, phase, generated, cached⟩ := refresh
  cases phase with
  | saving | reading => cases idle
  | comparing | loading => exact ⟨ok.1, (same rfl).trans ok.2⟩
  | checking | fetching | generating | caching => exact ok
  | returned result => rcases result with _ | _ | _ <;> exact ok

theorem RefreshOk.cache_ne (ok : RefreshOk cache row refresh) (writing : writes refresh = true) : cache ≠ none := by
  obtain ⟨caller, phase, generated, cached⟩ := refresh
  rintro rfl
  cases phase with
  | saving => cases ok.2
  | reading =>
    obtain ⟨⟨_, -, found⟩, -⟩ := ok
    cases found
  | _ => cases writing

theorem Orderly.inStep (orderly : Orderly s) : InStep s where
  agrees := by
    intro returned
    have begun : s.started = true := by
      cases first : s.refreshes[0]? with
      | none => simp [Issuer.started, first]
      | some refresh => simp [Issuer.started, first, returned refresh (List.mem_of_getElem? first)]
    have none : ∀ refresh ∈ s.refreshes, writes refresh = false := by
      intro refresh member
      have ended := returned refresh member
      obtain ⟨caller, phase, generated, cached⟩ := refresh
      cases phase with
      | returned => rfl
      | _ => cases ended
    rcases orderly.quiet none with same | empty
    · exact same
    · exact empty.trans (orderly.started begun empty).symm
  failed := by
    intro refresh member error phase
    have ok := orderly.each refresh member
    rwa [RefreshOk, phase] at ok
  own := by
    intro refresh member keyId phase
    have ok := orderly.each refresh member
    rwa [RefreshOk, phase] at ok

theorem orderly_set (orderly : Orderly s) (found : s.refreshes[index]? = some refresh)
    (others : ∀ (place : Nat) other, place ≠ index → s.refreshes[place]? = some other → RefreshOk cache row other ∧
      (writes other = true → busy after = false) ∧ (busy other = true → writes after = false))
    (ok : RefreshOk cache row after)
    (quiet : writes after = false → (∀ (place : Nat) other, place ≠ index → s.refreshes[place]? = some other →
      writes other = false) → cache = row ∨ cache = none)
    (live : cache = none → s.keyCache = none ∧ row = s.currentKey ∧ (after.isReturned = true → row = none)) :
    Orderly ⟨cache, row, s.refreshes.set index after⟩ where
  each := by
    intro other member
    obtain ⟨place, listed⟩ := List.mem_iff_getElem?.mp member
    rcases Slots.of_set listed with ⟨-, rfl⟩ | ⟨away, old⟩
    · exact ok
    · exact (others place other away old).1
  exclusive := by
    intro i j first second here there one two
    rcases Slots.of_set here with ⟨rfl, rfl⟩ | ⟨away, old⟩
    · rcases Slots.of_set there with ⟨rfl, -⟩ | ⟨away, old⟩
      · rfl
      · cases ((others j second away old).2.2 two).symm.trans one
    · rcases Slots.of_set there with ⟨rfl, rfl⟩ | ⟨-, old'⟩
      · cases ((others i first away old).2.1 one).symm.trans two
      · exact orderly.exclusive i j first second old old' one two
  quiet none := quiet (none after (List.mem_of_getElem? (Slots.set_self found))) fun place other away listed =>
    none other (List.mem_of_getElem? ((List.getElem?_set_ne away.symm).trans listed))
  started begun empty := by
    obtain ⟨before, same, ended⟩ := live empty
    by_cases first : index = 0
    · subst first
      rw [Issuer.started, Slots.set_self found] at begun
      exact ended begun
    · rw [Issuer.started, List.getElem?_set_ne first] at begun
      exact same.trans (orderly.started begun before)

theorem orderly_still (orderly : Orderly s) (found : s.refreshes[index]? = some refresh)
    (ok : RefreshOk s.keyCache s.currentKey after) (calm : writes after = false)
    (entered : busy after = true → busy refresh = true ∨ s.keyCache = none)
    (settled : writes refresh = true → s.keyCache = s.currentKey)
    (live : after.isReturned = true → s.keyCache = none → s.currentKey = none) :
    Orderly { s with refreshes := s.refreshes.set index after } := by
  refine orderly_set orderly found (fun place other away listed => ?_) ok (fun _ none => ?_)
    fun empty => ⟨empty, rfl, fun ended => live ended empty⟩
  · have each := orderly.each other (List.mem_of_getElem? listed)
    refine ⟨each, fun writing => ?_, fun _ => calm⟩
    by_contra busy
    rcases entered (by simpa using busy) with before | empty
    · exact away (orderly.exclusive place index other refresh listed found writing before)
    · exact each.cache_ne writing empty
  · by_cases writing : writes refresh = true
    · exact .inl (settled writing)
    · refine orderly.quiet fun other member => ?_
      obtain ⟨place, listed⟩ := List.mem_iff_getElem?.mp member
      by_cases here : place = index
      · cases here
        cases found.symm.trans listed
        simpa using writing
      · exact none place other here listed

theorem RefreshOk.aside (ok : RefreshOk s.keyCache s.currentKey refresh) (idle : busy refresh = false) :
    RefreshOk cache row refresh ∧ (writes refresh = true → busy after = false) ∧
      (busy refresh = true → writes after = false) := by
  have unwritten : writes refresh = false := by
    obtain ⟨caller, phase, generated, cached⟩ := refresh
    cases phase with
    | saving | reading => cases idle
    | _ => rfl
  refine ⟨ok.elsewhere unwritten fun found => ?_, fun found => ?_, fun found => ?_⟩
  · cases idle.symm.trans found
  · cases unwritten.symm.trans found
  · cases idle.symm.trans found

theorem orderly_resume {event : Event} (orderly : Orderly s) (found : s.refreshes[index]? = some refresh)
    (free : alone s (.refresh index event) = true) (resumed : s.resume refresh event = some (t, after)) :
    Orderly { t with refreshes := s.refreshes.set index after } := by
  have ok := orderly.each refresh (List.mem_of_getElem? found)
  have each (place : Nat) (other : Refresh) (listed : s.refreshes[place]? = some other) :=
    orderly.each other (List.mem_of_getElem? listed)
  have turn := turn_of_resume resumed
  obtain ⟨caller, phase, generated, cached⟩ := refresh
  cases turn with
  | looked =>
    cases resumed
    by_cases present : s.keyCache.isSome = true
    · rw [if_pos present]
      refine orderly_still orderly found trivial rfl nofun nofun fun _ empty => ?_
      rw [empty] at present
      cases present
    · rw [if_neg present]
      exact orderly_still orderly found ok rfl (fun _ => .inr (by simpa using present)) nofun nofun
  | fetched =>
    cases resumed
    refine orderly_still orderly found ?_ ?_ (fun _ => .inl rfl) nofun ?_
    all_goals cases s.currentKey
    exacts [ok, ⟨ok, rfl⟩, rfl, rfl, nofun, nofun]
  | compared =>
    cases resumed
    refine orderly_still orderly found ?_ ?_ (fun _ => .inl rfl) nofun ?_
    all_goals split
    exacts [ok.1, ok, rfl, rfl, nofun, nofun]
  | loaded =>
    cases resumed
    refine orderly_set orderly found (fun place other away listed => ?_) trivial (fun _ _ => .inl ok.2.symm) nofun
    have unwritten : writes other = false := by
      by_contra writing
      exact away (orderly.exclusive place index other _ listed found (by simpa using writing) rfl)
    refine ⟨(each place other listed).elsewhere unwritten fun _ => rfl, fun writing => ?_, fun _ => rfl⟩
    cases unwritten.symm.trans writing
  | generated =>
    cases resumed
    exact orderly_still orderly found ⟨ok, rfl⟩ rfl nofun nofun nofun
  | invalidKey =>
    cases resumed
    refine orderly_still orderly found ok rfl nofun nofun fun _ empty => ?_
    simpa [alone, found, empty, writes] using free
  | cached =>
    cases resumed
    refine orderly_set orderly found (fun place other _ listed => (each place other listed).aside ?_) ⟨ok.2, rfl⟩ nofun
      nofun
    simpa using List.all_eq_true.mp free other (List.mem_of_getElem? listed)
  | saved =>
    cases resumed
    refine orderly_set orderly found (fun place other away listed => (each place other listed).aside ?_) ?_
      (fun _ _ => .inl ok.2) fun empty => ?_
    · by_contra busy
      exact away (orderly.exclusive index place _ other found listed rfl (by simpa using busy)).symm
    · split
      · exact ⟨⟨_, ok⟩, ok.2⟩
      · trivial
    · cases ok.2.symm.trans empty
  | read =>
    cases resumed
    obtain ⟨⟨record, rfl, cached⟩, same⟩ := ok
    refine orderly_still orderly found ?_ rfl nofun (fun _ => same) fun _ empty => ?_
    · simp [RefreshOk, readKeyId, cached]
    · cases cached.symm.trans empty
  | failed fails =>
    simp only [alone, found, Option.all_some, Bool.and_eq_true, Bool.not_eq_true', Bool.or_eq_true,
      Option.isNone_iff_eq_none] at free
    have live : s.keyCache = none → s.currentKey = none := fun empty => by simpa [empty] using free.2
    cases phase with
    | fetching | generating =>
      cases resumed
      exact orderly_still orderly found ok rfl nofun nofun fun _ => live
    | comparing | loading =>
      cases resumed
      exact orderly_still orderly found ok.1 rfl nofun nofun fun _ => live
    | saving => cases free.1
    | _ => cases fails

theorem orderly_start {caller : Caller} {phase : RefreshPhase} (orderly : Orderly s) (begun : s.started = true)
    (early : phase = .generating ∨ phase = .checking) : Orderly (s.start caller phase) where
  each := by
    intro refresh member
    rcases Slots.mem_snoc member with old | rfl
    · exact orderly.each refresh old
    · rcases early with rfl | rfl <;> rfl
  exclusive := by
    intro i j first second here there one two
    rcases Slots.of_snoc here with here | ⟨-, rfl⟩
    · rcases Slots.of_snoc there with there | ⟨-, rfl⟩
      · exact orderly.exclusive i j first second here there one two
      · rcases early with rfl | rfl <;> cases two
    · rcases early with rfl | rfl <;> cases one
  quiet := fun none => orderly.quiet fun refresh member => none refresh (List.mem_append_left _ member)
  started := fun _ => orderly.started begun

theorem orderly_initial (row : Option KeyRecord) : Orderly (initial row) where
  each := by simp [initial, RefreshOk]
  exclusive := by
    intro i j first second here _ one
    cases List.mem_singleton.mp (List.mem_of_getElem? here)
    cases one
  quiet := fun _ => .inr rfl
  started := nofun

theorem orderly_step {action : Issuer.Action} (orderly : Orderly s) (free : alone s action = true)
    (taken : s.step action = some t) : Orderly t := by
  cases action with
  | tick =>
    obtain ⟨⟨begun, -⟩, rfl⟩ := of_guard taken
    split
    · exact orderly_start orderly begun (.inl rfl)
    · exact orderly
  | rotateKey =>
    obtain ⟨begun, rfl⟩ := of_guard taken
    exact orderly_start orderly begun (.inl rfl)
  | ensureKeyLoaded =>
    obtain ⟨begun, rfl⟩ := of_guard taken
    exact orderly_start orderly begun (.inr rfl)
  | restart =>
    cases taken
    exact orderly_initial s.currentKey
  | refresh =>
    obtain ⟨refresh, found, taken⟩ := Option.bind_eq_some_iff.mp taken
    obtain ⟨⟨t, after⟩, resumed, rfl⟩ := Option.map_eq_some_iff.mp taken
    exact orderly_resume orderly found free resumed

end Overlap

theorem keys_agree_when_alone (row : Option KeyRecord) (actions : List Issuer.Action)
    (free : Along Issuer.step (fun s action _ => alone s action = true) (initial row) actions) :
    Along Issuer.step (fun _ _ t => InStep t) (initial row) actions := by
  refine along_of_guarded (orderly_initial row) ?_ free
  intro s action t orderly free taken
  have kept := orderly_step orderly free taken
  exact ⟨kept.inStep, kept⟩

def rotatesOnce : List Issuer.Action :=
  [.rotateKey, .refresh 1 (.generated (neverExpiring 2)), .refresh 1 .cached, .refresh 1 .saved, .refresh 1 .read]

theorem keys_agree_after_rotation :
    Along Issuer.step (fun s action _ => alone s action = true) (initial (some (neverExpiring 1)))
      (loads 0 ++ rotatesOnce ++ .restart :: loads 0) ∧
    Along Issuer.step (fun _ _ t => InStep t) (initial (some (neverExpiring 1)))
      (loads 0 ++ rotatesOnce ++ .restart :: loads 0) ∧
    ∃ s, exec Issuer.step (initial (some (neverExpiring 1))) (loads 0 ++ rotatesOnce) = some s ∧
      s.currentKey = some (neverExpiring 2) ∧
      s.refreshes.map Refresh.phase = [.returned (.ok none), .returned (.ok (some 2))] := by
  have free : Along Issuer.step (fun s action _ => alone s action = true) (initial (some (neverExpiring 1)))
      (loads 0 ++ rotatesOnce ++ .restart :: loads 0) := by decide +kernel
  exact ⟨free, keys_agree_when_alone _ _ free, exec_of_any (by decide +kernel)⟩

def overlaps : List Issuer.Action :=
  loads 0 ++ [.tick 0 true, .rotateKey, .refresh 1 (.generated (neverExpiring 2)),
    .refresh 2 (.generated (neverExpiring 3))]

theorem overlapping_refreshes_disagree :
    (∃ s, exec Issuer.step (initial (some (neverExpiring 1))) (overlaps ++ [.refresh 1 .cached, .refresh 2 .cached,
        .refresh 2 .saved, .refresh 1 .saved, .refresh 2 .read]) = some s ∧
      s.keyCache = some (neverExpiring 3) ∧ s.currentKey = some (neverExpiring 2) ∧
      s.refreshes.map Refresh.phase = [.returned (.ok none), .returned (.ok none), .returned (.ok (some 3))]) ∧
    (∃ s, exec Issuer.step (initial (some (neverExpiring 1))) (overlaps ++ [.refresh 2 .cached, .refresh 1 .cached,
        .refresh 2 .saved, .refresh 2 .read]) = some s ∧
      s.refreshes[2]? = some ⟨.rotateKey, .returned (.ok (some 2)), some (neverExpiring 3), true⟩) ∧
    (∃ s, exec Issuer.step (initial (some (neverExpiring 1)))
        (loads 0 ++ rotatesOnce.take 3 ++ [.refresh 1 (.failed "disk full")]) = some s ∧
      s.keyCache = some (neverExpiring 2) ∧ s.currentKey = some (neverExpiring 1) ∧
      s.refreshes.map Refresh.phase = [.returned (.ok none), .returned (.error "Failed to save key: disk full")]) ∧
    -- a new process finds an expired key in the row and no signer
    ∃ s, exec Issuer.step (initial (some (neverExpiring 1))) [.refresh 0 .looked, .refresh 0 .fetched,
        .refresh 0 (.compared 1700000000), .refresh 0 (.failed "unreachable")] = some s ∧
      s.keyCache = none ∧ s.currentKey = some (neverExpiring 1) ∧
      s.refreshes.map Refresh.phase = [.returned (.error "KS unavailable: unreachable")] :=
  ⟨exec_of_any (by decide +kernel), exec_of_any (by decide +kernel), exec_of_any (by decide +kernel),
    exec_of_any (by decide +kernel)⟩

end Actr.Proof.Ais
