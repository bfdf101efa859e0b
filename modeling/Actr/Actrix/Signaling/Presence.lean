import Actr.Library.Maps
import Actr.Protocol.ActrId

/-! # Presence subscriptions -/

namespace Actr.Actrix.Signaling
open Protocol Library.Maps

structure PresenceManager where
  subscriptions : AList fun _ : ActrType => List ActrId

namespace PresenceManager

def empty : PresenceManager := ⟨∅⟩

def getSubscribers (manager : PresenceManager) (targetType : ActrType) : List ActrId :=
  listAt manager.subscriptions targetType

def subscribe (manager : PresenceManager) (subscriber : ActrId) (targetType : ActrType) : PresenceManager :=
  ⟨manager.subscriptions.insert targetType (pushNew (manager.getSubscribers targetType) subscriber)⟩

def unsubscribe (manager : PresenceManager) (subscriber : ActrId) (targetType : ActrType) : Bool × PresenceManager :=
  match manager.subscriptions.lookup targetType with
  | some subscribers =>
    let kept := subscribers.filter (· ≠ subscriber)
    if kept.length < subscribers.length then
      if kept.isEmpty then (true, ⟨manager.subscriptions.erase targetType⟩)
      else (true, ⟨manager.subscriptions.insert targetType kept⟩)
    else (false, ⟨manager.subscriptions.insert targetType kept⟩)
  | none => (false, manager)

end PresenceManager

end Actr.Actrix.Signaling
