import FlossDesktop.Library.IdentityIndex

/-! The callbacks that clients of the daemon have registered, and who owns them. A path of a
remote client means nothing without the client's bus name. The id that a proxy gives out when
its disconnect is watched is an argument. -/

namespace FlossDesktop

class RPCProxy (T : Type) where
  getObjectId : T → String
  getRemoteOwner : T → String

structure Callbacks (T : Type) where
  callbacks : UInt32 → Option T := fun _ => none
  objectIdToCbid : String × String → Option UInt32 := fun _ => none

namespace Callbacks

variable {T : Type} [RPCProxy T]

/-- Local proxies have an empty owner. -/
def identity (callback : T) : String × String := (RPCProxy.getRemoteOwner callback, RPCProxy.getObjectId callback)

/-- `registered` is what `register_disconnect` returns, when it is asked. -/
def addCallback (callbacks : Callbacks T) (callback : T) (registered : UInt32) : Callbacks T × UInt32 :=
  match callbacks.objectIdToCbid (identity callback) with
  | some cbid => (callbacks, cbid)
  | none =>
    ({ objectIdToCbid := Function.update callbacks.objectIdToCbid (identity callback) (some registered)
       callbacks := Function.update callbacks.callbacks registered (some callback) }, registered)

def getById (callbacks : Callbacks T) (id : UInt32) : Option T := callbacks.callbacks id

def removeCallback (callbacks : Callbacks T) (id : UInt32) : Callbacks T × Bool :=
  match callbacks.callbacks id with
  | some callback =>
    ({ objectIdToCbid := Function.update callbacks.objectIdToCbid (identity callback) none
       callbacks := Function.update callbacks.callbacks id none }, true)
  | none => (callbacks, false)

/-- A local proxy belongs to nobody on the bus. -/
def isCallbackOwner (callbacks : Callbacks T) (callback : UInt32) (owner : String) : Bool :=
  owner ≠ "" && (callbacks.getById callback).elim false fun proxy => RPCProxy.getRemoteOwner proxy == owner

/-- The request of a client to drop its callback. -/
def unregisterCallback (callbacks : Callbacks T) (callback : UInt32) : Callbacks T × Bool :=
  if (callbacks.getById callback).isNone then (callbacks, false) else ((callbacks.removeCallback callback).1, true)

/-- The sender is that of the bus message, when it has one. -/
def authorizeSocketCallback (callbacks : Callbacks T) (sender : Option String) (callback : UInt32) :
    Except (String × String) Unit :=
  if sender.elim false (callbacks.isCallbackOwner callback) then .ok ()
  else .error ("org.freedesktop.DBus.Error.AccessDenied", "Socket callback belongs to another client")

end Callbacks

end FlossDesktop
