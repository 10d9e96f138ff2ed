import FlossDesktop.Library.Machine

/-! Switching the radio on and off from the desktop. What the manager says about the radio
block is asked for again and again, by a timer and on the way to a powered adapter. All calls
are asynchronous: a step is one event of the main loop, and a reply comes when it comes. -/

namespace FlossDesktop.RadioPower

/-- What a manager call comes back with, as far as the backend looks into it. A call that times
out comes back with an error, and a reply of any other shape is `other`. -/
inductive Message where
  | error (message : String)
  | rfkillState (available hardBlocked softBlocked : Bool)
  | flag (value : Bool)
  | other
deriving Repr, DecidableEq

/-- What is done with the reply to a call, and what the call was for. -/
inductive Continuation where
  | refresh (revision : Nat)
  | setPowered
  | unblock
  | confirm (attempts : Nat)
  | managerPower (enabled : Bool)
deriving Repr, DecidableEq

inductive Method where
  | getRfkillState
  | setRfkillBlocked (blocked : Bool)
  | start
  | stop
deriving Repr, DecidableEq

def Continuation.method : Continuation → Method
  | .refresh _ => .getRfkillState
  | .setPowered => .getRfkillState
  | .unblock => .setRfkillBlocked false
  | .confirm _ => .getRfkillState
  | .managerPower enabled => if enabled then .start else .stop

/-- What the main loop waits for. -/
inductive Task where
  | call (continuation : Continuation)
  | timer (attempts : Nat)
deriving Repr, DecidableEq

structure Backend where
  radioAvailable : Bool := false
  hardBlocked : Bool := false
  softBlocked : Bool := false
  powerPending : Bool := false
  radioReading : Bool := false
  radioRevision : Nat := 0
  error : String := ""
  tasks : List Task := []
deriving Repr, DecidableEq

/-- What happens, in order. Changes are only announced, and are left out. -/
inductive Mark where
  | requested (enabled : Bool)
  | sent (continuation : Continuation)
  | slept (attempts : Nat)
  | answered (continuation : Continuation) (message : Message)
  | woke (attempts : Nat)
  | ended
deriving Repr, DecidableEq

namespace Backend

variable (backend : Backend)

def radioMessage : String :=
  if backend.hardBlocked then
    "Bluetooth is blocked by a hardware switch. Turn the switch on to enable Bluetooth."
  else if backend.softBlocked then
    "Bluetooth is blocked by software. Enable Bluetooth to unblock this adapter."
  else ""

def fail (message : String) : Backend := { backend with error := message }

def managerCall (continuation : Continuation) : Backend × List Mark :=
  ({ backend with tasks := backend.tasks ++ [.call continuation] }, [.sent continuation])

/-- An adapter that is not there is not blocked. -/
def readRadioState : Message → Option Backend
  | .rfkillState available hardBlocked softBlocked =>
    some { backend with
      radioAvailable := available
      hardBlocked := available && hardBlocked
      softBlocked := available && softBlocked }
  | _ => none

def refreshRadioState : Backend × List Mark :=
  if backend.powerPending || backend.radioReading then (backend, [])
  else
    let backend := { backend with radioReading := true, radioRevision := backend.radioRevision + 1 }
    backend.managerCall (.refresh backend.radioRevision)

def requestManagerPower (enabled : Bool) : Backend × List Mark := backend.managerCall (.managerPower enabled)

def confirmRadioUnblocked (attempts : Nat) : Backend × List Mark := backend.managerCall (.confirm attempts)

def setPowered (enabled : Bool) : Backend × List Mark :=
  if backend.powerPending then (backend, [])
  else
    let backend := { backend with radioRevision := backend.radioRevision + 1, powerPending := true, error := "" }
    let (backend, marks) := if enabled then backend.managerCall .setPowered else backend.requestManagerPower false
    (backend, .requested enabled :: marks)

/-- The power request ends with an error. -/
def giveUp (message : String) : Backend × List Mark := ({ backend with powerPending := false }.fail message, [.ended])

/-- The reply to a call. -/
def finished (message : Message) : Continuation → Backend × List Mark
  | .refresh revision =>
    let backend := { backend with radioReading := false }
    if revision ≠ backend.radioRevision then (backend, [])
    else
      match backend.readRadioState message with
      | some backend => (backend, [])
      | none => ({ backend with radioAvailable := false, hardBlocked := false, softBlocked := false }, [])
  | .setPowered =>
    match backend.readRadioState message with
    | none => backend.giveUp "Could not determine the Bluetooth radio block state."
    | some backend =>
      if backend.hardBlocked then backend.giveUp backend.radioMessage
      else if !backend.softBlocked then backend.requestManagerPower true
      else backend.managerCall .unblock
  | .unblock =>
    match message with
    | .flag true => backend.confirmRadioUnblocked 10
    | _ =>
      let (backend, marks) := backend.giveUp "Could not unblock the Bluetooth adapter."
      let (backend, polls) := backend.refreshRadioState
      (backend, marks ++ polls)
  | .confirm attempts =>
    match backend.readRadioState message with
    | none => backend.giveUp "Could not confirm that the Bluetooth adapter is unblocked."
    | some backend =>
      if !backend.radioAvailable || backend.hardBlocked then
        backend.giveUp "Could not confirm that the Bluetooth adapter is unblocked."
      else if !backend.softBlocked then backend.requestManagerPower true
      else if attempts ≤ 1 then backend.giveUp "The Bluetooth adapter is still blocked."
      else ({ backend with tasks := backend.tasks ++ [.timer attempts] }, [.slept attempts])
  | .managerPower _ =>
    let backend := { backend with powerPending := false }
    let backend :=
      match message with
      | .error message => backend.fail message
      | _ => backend
    let (backend, polls) := backend.refreshRadioState
    (backend, .ended :: polls)

/-- An event of the main loop: the timer of the poll, the user, the reply to the call at some
place among the tasks, or the timer at it. A place without such a task is no event. -/
inductive Event where
  | poll
  | setPowered (enabled : Bool)
  | reply (place : Nat) (message : Message)
  | wake (place : Nat)
deriving Repr, DecidableEq

def step : Event → Backend × List Mark
  | .poll => backend.refreshRadioState
  | .setPowered enabled => backend.setPowered enabled
  | .reply place message =>
    match backend.tasks[place]? with
    | some (.call continuation) =>
      let result := { backend with tasks := backend.tasks.eraseIdx place }.finished message continuation
      (result.1, .answered continuation message :: result.2)
    | _ => (backend, [])
  | .wake place =>
    match backend.tasks[place]? with
    | some (.timer attempts) =>
      let result := { backend with tasks := backend.tasks.eraseIdx place }.confirmRadioUnblocked (attempts - 1)
      (result.1, .woke attempts :: result.2)
    | _ => (backend, [])

end Backend

end FlossDesktop.RadioPower
