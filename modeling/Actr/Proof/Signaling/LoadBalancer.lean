import Actr.Actrix.Signaling.LoadBalancer
import Mathlib.Algebra.Order.Ring.Nat

/-! # The comparison of candidates -/

namespace Actr.Proof.Signaling
open Actrix.Signaling LoadBalancer

variable {α : Type} [LinearOrder α] {x y z : Metric α} {p q r : Bool}

theorem partial_swap : (partialCmp x y).getD .eq = ((partialCmp y x).getD .eq).swap := by
  cases x with
  | nan => cases y <;> rfl
  | number =>
    cases y with
    | nan => rfl
    | number => exact Std.OrientedOrd.eq_swap

theorem partial_trans (left : x ≠ .nan) (middle : y ≠ .nan) (right : z ≠ .nan)
    (first : ((partialCmp x y).getD .eq).isLE) (second : ((partialCmp y z).getD .eq).isLE) :
    ((partialCmp x z).getD .eq).isLE := by
  cases x with
  | nan => exact absurd rfl left
  | number =>
    cases y with
    | nan => exact absurd rfl middle
    | number =>
      cases z with
      | nan => exact absurd rfl right
      | number => exact Std.TransOrd.isLE_trans first second

theorem first_swap : cmpFirst p q = (cmpFirst q p).swap := by
  cases p <;> cases q <;> rfl

theorem first_trans : (cmpFirst p q).isLE → (cmpFirst q r).isLE → (cmpFirst p r).isLE := by
  cases p <;> cases q <;> cases r <;> decide

variable [Zero α] [One α] {client : Client α} {factor : NodeRankingFactor} {factors : List NodeRankingFactor}
  {here : Metric α × Metric α} {a b c : Candidate α}

/-- From the location of the client, places are at different distances. -/
def Spread (client : Client α) (here : Metric α × Metric α) : Prop :=
  ∃ near far : Metric α × Metric α, ∃ u v, u ≠ v ∧ client.haversineDistance here.1 here.2 near.1 near.2 = .number u ∧
    client.haversineDistance here.1 here.2 far.1 far.2 = .number v

/-- No listed factor finds a value that is not a number where it could tell numbers apart. -/
structure Comparable (client : Client α) (factors : List NodeRankingFactor) (candidate : Candidate α) : Prop where
  power : .maximumPowerReserve ∈ factors → candidate.powerReserve.getD (.number 0) ≠ .nan
  backlog : .minimumMailboxBacklog ∈ factors → candidate.mailboxBacklog.getD (.number 1) ≠ .nan
  distance : .nearest ∈ factors → ∀ here, client.clientLocation = some here → Spread client here →
    distance client here candidate ≠ some .nan

theorem factor_swap : cmpByFactor client factor a b = (cmpByFactor client factor b a).swap := by
  cases factor with
  | maximumPowerReserve | minimumMailboxBacklog => exact partial_swap
  | exactMatchFirst => exact first_swap
  | nearest =>
    unfold cmpByFactor cmpDistance
    cases client.clientLocation with
    | none => exact first_swap
    | some here =>
      dsimp only
      cases distance client here a <;> cases distance client here b
      case some.some => exact partial_swap
      all_goals rfl
  | clientAffinity =>
    unfold cmpByFactor cmpAffinity
    cases client.clientId with
    | none => rfl
    | some => exact first_swap

omit [LinearOrder α] [Zero α] [One α] in
theorem distance_eq_some (found : distance client here a = some x) :
    ∃ place : Metric α × Metric α, client.haversineDistance here.1 here.2 place.1 place.2 = x := by
  obtain ⟨location, -, found⟩ := Option.bind_eq_some_iff.mp found
  split at found
  · exact ⟨(_, _), Option.some.inj found⟩
  · cases found

omit [Zero α] [One α] in
theorem unspread (narrow : ¬ Spread client here) (first : distance client here a = some x)
    (second : distance client here b = some y) : (partialCmp x y).getD .eq = .eq := by
  obtain ⟨near, atFirst⟩ := distance_eq_some first
  obtain ⟨far, atSecond⟩ := distance_eq_some second
  cases x with
  | nan => rfl
  | number u =>
    cases y with
    | nan => rfl
    | number v =>
      by_contra apart
      exact narrow ⟨near, far, u, v, fun same => apart (compare_eq_iff_eq.mpr same), atFirst, atSecond⟩

theorem factor_trans (listed : factor ∈ factors) (left : Comparable client factors a)
    (middle : Comparable client factors b) (right : Comparable client factors c) :
    (cmpByFactor client factor a b).isLE → (cmpByFactor client factor b c).isLE →
      (cmpByFactor client factor a c).isLE := by
  cases factor with
  | maximumPowerReserve => exact flip (partial_trans (right.power listed) (middle.power listed) (left.power listed))
  | minimumMailboxBacklog => exact partial_trans (left.backlog listed) (middle.backlog listed) (right.backlog listed)
  | exactMatchFirst => exact first_trans
  | nearest =>
    unfold cmpByFactor cmpDistance
    cases located : client.clientLocation with
    | none => exact first_trans
    | some here =>
      have left := left.distance listed here located
      have middle := middle.distance listed here located
      have right := right.distance listed here located
      revert left middle right
      dsimp only
      cases first : distance client here a <;> cases distance client here b <;> cases third : distance client here c
      case some.some.some =>
        by_cases spread : Spread client here
        · simpa [spread] using partial_trans
        · simp [unspread spread first third]
      all_goals simp
  | clientAffinity =>
    unfold cmpByFactor cmpAffinity
    cases client.clientId with
    | none => exact fun _ _ => rfl
    | some => exact first_trans

instance orientedCmp_factors (factors : List NodeRankingFactor) : Std.OrientedCmp (cmpByFactors client factors) := by
  induction factors with
  | nil => exact ⟨rfl⟩
  | cons factor rest ih =>
    have : Std.OrientedCmp (cmpByFactor client factor) := ⟨factor_swap⟩
    exact inferInstanceAs (Std.OrientedCmp (compareLex _ _))

theorem factors_eq_eq : cmpByFactors client factors a b = .eq ↔
    ∀ factor ∈ factors, cmpByFactor client factor a b = .eq := by
  induction factors with
  | nil => simp [cmpByFactors]
  | cons factor rest ih => simp [cmpByFactors, Ordering.then_eq_eq, ih]

theorem transCmp_factors {tested : List NodeRankingFactor} (listed : tested ⊆ factors) : Std.TransCmp
    fun a b : { candidate // Comparable client factors candidate } => cmpByFactors client tested a.1 b.1 := by
  induction tested with
  | nil => exact { eq_swap := rfl, isLE_trans := fun _ _ => rfl }
  | cons factor rest ih =>
    have := ih fun _ member => listed (.tail _ member)
    have : Std.TransCmp fun a b : { candidate // Comparable client factors candidate } =>
        cmpByFactor client factor a.1 b.1 :=
      { eq_swap := factor_swap, isLE_trans := fun {a b c} => factor_trans (listed (.head _)) a.2 b.2 c.2 }
    exact inferInstanceAs (Std.TransCmp (compareLex _ _))

def having (metric : Metric α) (place : Option (Metric α × Metric α)) : Candidate α :=
  ⟨some metric, some metric, place.map fun place => ⟨some place.1, some place.2⟩, false, []⟩

theorem having_eq {place place' : Option (Metric α × Metric α)} (forth : (partialCmp x y).getD .eq = .eq)
    (back : (partialCmp y x).getD .eq = .eq) (near : cmpDistance client (having x place) (having y place') = .eq) :
    ∀ factor ∈ factors, cmpByFactor client factor (having x place) (having y place') = .eq := by
  intro factor _
  cases factor with
  | maximumPowerReserve => exact back
  | minimumMailboxBacklog => exact forth
  | exactMatchFirst => rfl
  | nearest => exact near
  | clientAffinity =>
    unfold cmpByFactor cmpAffinity
    cases client.clientId with
    | none | some => simp [having, cmpFirst]

/-- What is not a number stands between two numbers and is equal to both. -/
theorem comparable_of_trans [Nontrivial α] (trans : Std.TransCmp (cmpByFactors client factors))
    (candidate : Candidate α) : Comparable client factors candidate := by
  obtain ⟨low, high, differ⟩ := exists_pair_ne α
  have through {x y z : Candidate α} (left : ∀ factor ∈ factors, cmpByFactor client factor x y = .eq)
      (right : ∀ factor ∈ factors, cmpByFactor client factor y z = .eq) :
      ∀ factor ∈ factors, cmpByFactor client factor x z = .eq :=
    factors_eq_eq.mp (trans.eq_trans (factors_eq_eq.mpr left) (factors_eq_eq.mpr right))
  have nowhere {x y : Metric α} : cmpDistance client (having x none) (having y none) = .eq := by
    unfold cmpDistance
    cases client.clientLocation with
    | none | some => rfl
  have metrics := through (@having_eq _ _ (.number low) .nan _ _ client factors none none rfl rfl nowhere)
    (@having_eq _ _ .nan (.number high) _ _ client factors none none rfl rfl nowhere)
  constructor
  case power => exact fun listed => absurd (compare_eq_iff_eq.mp (metrics _ listed)).symm differ
  case backlog => exact fun listed => absurd (compare_eq_iff_eq.mp (metrics _ listed)) differ
  case distance =>
    rintro listed here located ⟨near, far, u, v, differ, atNear, atFar⟩ nan
    obtain ⟨place, atPlace⟩ := distance_eq_some nan
    have apart (p q : Metric α × Metric α) : cmpDistance client (having .nan (some p)) (having .nan (some q)) =
        (partialCmp (client.haversineDistance here.1 here.2 p.1 p.2)
          (client.haversineDistance here.1 here.2 q.1 q.2)).getD .eq := by
      simp [cmpDistance, located, LoadBalancer.distance, having]
    have between := through (having_eq rfl rfl ((apart near place).trans (by rw [atNear, atPlace]; rfl)))
      (having_eq rfl rfl ((apart place far).trans (by rw [atPlace]; rfl))) _ listed
    rw [cmpByFactor, apart, atNear, atFar] at between
    exact differ (compare_eq_iff_eq.mp between)

def reserve (value : Metric ℕ) : Candidate ℕ := ⟨some value, none, none, false, []⟩

end Actr.Proof.Signaling
