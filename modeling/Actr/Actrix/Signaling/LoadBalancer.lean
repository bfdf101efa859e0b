import Mathlib.Order.Defs.LinearOrder

/-!
# Ranking of candidates

The comparison of `rank_candidates`. A float is a number of an ordered set or not a number; `haversine_distance` is a
given function.
-/

namespace Actr.Actrix.Signaling

inductive Metric (α : Type) where
  | number (value : α)
  | nan
  deriving DecidableEq, Repr

inductive NodeRankingFactor where
  | maximumPowerReserve
  | minimumMailboxBacklog
  | exactMatchFirst
  | nearest
  | clientAffinity
  deriving DecidableEq, Repr

structure GeoLocation (α : Type) where
  latitude : Option (Metric α)
  longitude : Option (Metric α)
  deriving DecidableEq, Repr

structure Candidate (α : Type) where
  powerReserve : Option (Metric α)
  mailboxBacklog : Option (Metric α)
  geoLocation : Option (GeoLocation α)
  isExactMatch : Bool
  stickyClientIds : List String
  deriving DecidableEq, Repr

structure Client (α : Type) where
  clientId : Option String
  clientLocation : Option (Metric α × Metric α)
  haversineDistance : Metric α → Metric α → Metric α → Metric α → Metric α

namespace LoadBalancer

variable {α : Type} [LinearOrder α] [Zero α] [One α]

def partialCmp : Metric α → Metric α → Option Ordering
  | .number a, .number b => some (compare a b)
  | _, _ => none

def cmpFirst (a b : Bool) : Ordering :=
  match a, b with
  | true, false => .lt
  | false, true => .gt
  | _, _ => .eq

def cmpPowerReserve (a b : Candidate α) : Ordering :=
  (partialCmp (b.powerReserve.getD (.number 0)) (a.powerReserve.getD (.number 0))).getD .eq

def cmpMailboxBacklog (a b : Candidate α) : Ordering :=
  (partialCmp (a.mailboxBacklog.getD (.number 1)) (b.mailboxBacklog.getD (.number 1))).getD .eq

def cmpExactMatch (a b : Candidate α) : Ordering := cmpFirst a.isExactMatch b.isExactMatch

def distance (client : Client α) (here : Metric α × Metric α) (candidate : Candidate α) : Option (Metric α) :=
  candidate.geoLocation.bind fun location =>
    match location.latitude, location.longitude with
    | some latitude, some longitude => some (client.haversineDistance here.1 here.2 latitude longitude)
    | _, _ => none

def cmpDistance (client : Client α) (a b : Candidate α) : Ordering :=
  match client.clientLocation with
  | some here =>
    match distance client here a, distance client here b with
    | some da, some db => (partialCmp da db).getD .eq
    | some _, none => .lt
    | none, some _ => .gt
    | none, none => .eq
  | none => cmpFirst a.geoLocation.isSome b.geoLocation.isSome

def cmpAffinity (client : Client α) (a b : Candidate α) : Ordering :=
  match client.clientId with
  | some clientId => cmpFirst (a.stickyClientIds.contains clientId) (b.stickyClientIds.contains clientId)
  | none => .eq

def cmpByFactor (client : Client α) (factor : NodeRankingFactor) (a b : Candidate α) : Ordering :=
  match factor with
  | .maximumPowerReserve => cmpPowerReserve a b
  | .minimumMailboxBacklog => cmpMailboxBacklog a b
  | .exactMatchFirst => cmpExactMatch a b
  | .nearest => cmpDistance client a b
  | .clientAffinity => cmpAffinity client a b

-- The closure that is passed to `sort_by`: the first factor that tells the two apart decides.
def cmpByFactors (client : Client α) (factors : List NodeRankingFactor) (a b : Candidate α) : Ordering :=
  match factors with
  | [] => .eq
  | factor :: rest => (cmpByFactor client factor a b).then (cmpByFactors client rest a b)

end LoadBalancer

end Actr.Actrix.Signaling
