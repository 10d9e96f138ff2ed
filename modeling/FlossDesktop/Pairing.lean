import FlossDesktop.Transport
import Mathlib.Algebra.Group.Nat.Defs

/-! The pairing half of the desktop backend. One prompt is shown at a time; every live
prompt is cached under its device address, so that a view that becomes the pairing
owner can take it over. Calls to the daemon return in any order and with any outcome,
and each event handler runs to its end before the next event. -/

namespace FlossDesktop.Pairing

inductive Kind where
  | pin
  | passkey
  | confirm
  | display
deriving Repr, DecidableEq

structure Prompt where
  address : String
  kind : Kind
  code : String
  minimum : Nat
  token : Nat
  uncertain : Bool
  answered : Bool := false
  pending : Bool := false
  cancelRequested : Bool := false
  expired : Bool := false
deriving Repr, DecidableEq

/-- Nothing speaks against sending an answer for this prompt. -/
def Prompt.answerable (shown : Prompt) : Bool :=
  !(shown.pending || shown.answered || shown.expired || shown.cancelRequested || shown.uncertain)

inductive Method where
  | setPin (pin : Bytes)
  | setPasskey (passkey : Bytes)
  | setPairingConfirmation
  | cancelBondProcess
deriving Repr, DecidableEq

def Method.answers : Method → Bool
  | .cancelBondProcess => false
  | _ => true

/-- What the daemon returns: true, false, or an error. -/
inductive Outcome where
  | accepted
  | rejected
  | error
deriving Repr, DecidableEq

/-- A call that answers or cancels a prompt, and its reply once there is one. -/
structure Call where
  epoch : Nat
  address : String
  token : Nat
  method : Method
  outcome : Option Outcome := none
deriving Repr, DecidableEq

/-- A call of `GetBondState` for a cached prompt, or its expiry timer. -/
structure Ticket where
  epoch : Nat
  address : String
  token : Nat
deriving Repr, DecidableEq

/-- How a prompt came in. Nothing in the backend reads it. -/
structure Receipt where
  token : Nat
  address : String
  kind : Kind
  owned : Bool
deriving Repr, DecidableEq

structure Backend where
  callbackExported : Bool := true
  owner : String := ""
  epoch : Nat := 0
  pairingOwner : Bool := false
  pairingViews : List Nat := []
  pairing : Option Prompt := none
  pairingCache : List Prompt := []
  pairingValidation : Bool := false
  error : String := ""
  nextView : Nat := 0
  nextToken : Nat := 0
  calls : List Call := []
  checks : List Ticket := []
  timers : List Ticket := []
  -- Addresses of prompts turned away because another device was pairing.
  turnedAway : List String := []
  -- What happened to each token so far.
  received : List Receipt := []
  fired : List Nat := []
  cancelled : List Nat := []
deriving Repr, DecidableEq

namespace Backend

def fail (s : Backend) (message : String) : Backend := { s with error := message }

/-- The cached prompts, sorted by address. -/
def insertSorted (request : Prompt) : List Prompt → List Prompt
  | [] => [request]
  | cached :: rest =>
    if cached.address < request.address then cached :: insertSorted request rest else request :: cached :: rest

def cached (s : Backend) (address : String) : Option Prompt := s.pairingCache.find? (·.address == address)

def uncache (s : Backend) (address : String) : Backend :=
  { s with pairingCache := s.pairingCache.filter (·.address != address) }

def cache (s : Backend) (request : Prompt) : Backend :=
  { s with pairingCache := insertSorted request (s.uncache request.address).pairingCache }

/-- The handler of `pairingChanged`. An answer whose result is not known yet is never
offered again. -/
def pairingChanged (s : Backend) : Backend :=
  match s.pairing with
  | none => s
  | some shown =>
    { s with
      pairingCache := s.pairingCache.map fun cached =>
        if cached.address = shown.address ∧ cached.token = shown.token then
          { cached with answered := shown.answered, uncertain := shown.uncertain || shown.pending }
        else cached }

/-- Replace the prompt that is shown, and say so. -/
def present (s : Backend) (shown : Option Prompt) : Backend := { s with pairing := shown }.pairingChanged

def showCachedPairing (s : Backend) : Backend :=
  if s.pairingOwner = false ∨ s.pairing.isSome ∨ s.pairingValidation ∨ s.owner.isEmpty then s
  else
    match s.pairingCache.head? with
    | none => s
    | some request =>
      { s with pairingValidation := true, checks := s.checks ++ [⟨s.epoch, request.address, request.token⟩] }

def clearPairing (s : Backend) (address : String) : Backend :=
  let s := s.uncache address
  (if s.pairing.any (·.address == address) then s.present none else s).showCachedPairing

def acquirePairing (s : Backend) (registered : Bool) : Backend :=
  if s.callbackExported = false ∨ s.pairingViews.isEmpty ∨ s.pairingOwner then s
  else
    let s := { s with pairingOwner := registered }
    if registered then s.showCachedPairing else s

def attachPairingView (s : Backend) (registered : Bool) : Backend :=
  let s := { s with pairingViews := s.pairingViews ++ [s.nextView], nextView := s.nextView + 1 }
  (s.acquirePairing registered).pairingChanged

def detachPairingView (s : Backend) (view : Nat) : Backend :=
  let s := { s with pairingViews := s.pairingViews.filter (· != view) }
  (if s.pairingViews.isEmpty ∧ s.pairingOwner then { s with pairingOwner := false, pairing := none }
    else s).pairingChanged

/-- Send a call, unless there is no daemon. -/
def call (s : Backend) (address : String) (token : Nat) (method : Method) : Backend :=
  if s.owner.isEmpty then s.fail "Floss is not running."
  else { s with calls := s.calls ++ [⟨s.epoch, address, token, method, none⟩] }

def cancelPairing (s : Backend) (token : Nat) : Backend :=
  match s.pairing with
  | none => s
  | some shown =>
    if s.pairingOwner = false ∨ shown.token ≠ token then s
    else
      let s := { s with cancelled := s.cancelled ++ [token] }
      if shown.pending then s.present (some { shown with cancelRequested := true })
      else
        (s.present (some { shown with cancelRequested := true, pending := true })).call shown.address token
          .cancelBondProcess

/-- The cancellation has returned. -/
def cancelReturned (s : Backend) (address : String) (token : Nat) (outcome : Outcome) : Backend :=
  match s.pairing with
  | none => s
  | some shown =>
    if shown.token ≠ token then s
    else if outcome = .accepted then s.clearPairing address
    else
      (s.fail "Could not cancel pairing. Retry Cancel or wait for the device to finish.").present
        (some { shown with pending := false })

/-- Six digits, before a line break at most. -/
def isPasskey (pin : String) : Bool :=
  let digits := pin.toList.take 6
  digits.length == 6 && digits.all (fun c => '0' ≤ c && c ≤ '9') && (pin.toList.drop 6 == [] || pin.toList.drop 6 == ['\n'])

def passkeyBytes (pin : String) : Bytes :=
  let value := (pin.toList.take 6).foldl (fun value c => value * 10 + (c.toNat - '0'.toNat)) 0
  (List.range 4).map fun i => UInt8.ofNat (value / 256 ^ i % 256)

/-- The call that answers a prompt, if the text fits. A notification is answered
without one. -/
def answerMethod (shown : Prompt) (pin : String) : Except String (Option Method) :=
  match shown.kind with
  | .pin =>
    let bytes := pin.toUTF8.toList
    if bytes.length < shown.minimum ∨ bytes.length > 16 then
      .error "Enter a PIN of the requested length, at most 16 bytes."
    else .ok (some (.setPin bytes))
  | .passkey => if isPasskey pin then .ok (some (.setPasskey (passkeyBytes pin))) else .error "Enter a six-digit passkey."
  | .confirm => .ok (some .setPairingConfirmation)
  | .display => .ok none

def answerPairing (s : Backend) (token : Nat) (accept : Bool) (pin : String) : Backend :=
  match s.pairing with
  | none => s
  | some shown =>
    if s.pairingOwner = false ∨ shown.token ≠ token then s
    else if accept = false then s.cancelPairing token
    else if shown.answerable = false then s
    else
      match answerMethod shown pin with
      | .error message => s.fail message
      | .ok none => s.present (some { shown with answered := true })
      | .ok (some method) => (s.present (some { shown with pending := true })).call shown.address token method

def answerFailure : Outcome → String
  | .error => "The pairing response could not be confirmed. Cancel pairing before trying again."
  | _ => "Floss rejected the pairing response. Retry or cancel pairing."

/-- The prompt once its answer has returned. -/
def returned (shown : Prompt) (outcome : Outcome) : Prompt :=
  { shown with
    pending := false, answered := decide (outcome = Outcome.accepted), uncertain := decide (outcome = Outcome.error) }

/-- An answer has returned. A cancellation asked for meanwhile follows now. -/
def answerReturned (s : Backend) (token : Nat) (outcome : Outcome) : Backend :=
  match s.pairing with
  | none => s
  | some shown =>
    if shown.token ≠ token then s
    else
      let s := if outcome = .accepted then s else s.fail (answerFailure outcome)
      let s := s.present (some (returned shown outcome))
      if shown.cancelRequested || shown.expired then s.cancelPairing token else s

/-- The reply to a call, which is dropped if the daemon has changed since. -/
def replied (s : Backend) (index : Nat) (outcome : Outcome) : Backend :=
  match s.calls[index]? with
  | none => s
  | some call =>
    if call.outcome.isSome then s
    else
      let s := { s with calls := s.calls.set index { call with outcome := some outcome } }
      if call.epoch ≠ s.epoch then s
      else if call.method.answers then s.answerReturned call.token outcome
      else s.cancelReturned call.address call.token outcome

/-- The prompt that a bond state shows again: the cached one, if its device is still
bonding. -/
def reshown (s : Backend) (ticket : Ticket) (state : Except String Nat) : Option Prompt :=
  if ticket.epoch ≠ s.epoch ∨ s.pairingOwner = false ∨ s.pairing.isSome then none
  else
    match s.cached ticket.address with
    | none => none
    | some request => if request.token = ticket.token ∧ state = .ok 1 then some request else none

/-- The message of a reply that is an error. -/
def reported (s : Backend) : Except String Nat → Backend
  | .error message => s.fail message
  | .ok _ => s

def bondStateReturned (s : Backend) (index : Nat) (state : Except String Nat) : Backend :=
  match s.checks[index]? with
  | none => s
  | some ticket =>
    let s := { s with checks := s.checks.eraseIdx index }
    if ticket.epoch ≠ s.epoch then s
    else
      let s := { s.reported state with pairingValidation := false }
      if s.pairingOwner = false ∨ s.pairing.isSome then s
      else if (s.cached ticket.address).map Prompt.token ≠ some ticket.token then s.showCachedPairing
      else
        match s.reshown ticket state with
        | none => (s.uncache ticket.address).showCachedPairing
        | some request => s.present (some request)

def prompt (s : Backend) (address : String) (kind : Kind) (code : String) (minimum : Nat) : Backend :=
  if address.isEmpty then s
  else
    let token := s.nextToken
    let request : Prompt := { address, kind, code, minimum, token, uncertain := !s.pairingOwner }
    let s : Backend :=
      { s with nextToken := token + 1, received := s.received ++ [⟨token, address, kind, s.pairingOwner⟩] }
    let s := s.cache request
    let s : Backend :=
      if s.pairingOwner = false then s
      else if s.pairing.all (·.address == address) then s.present (some request)
      else { s.fail "Another device is already pairing." with turnedAway := s.turnedAway ++ [address] }
    { s with timers := s.timers ++ [⟨s.epoch, address, token⟩] }

def expireCached (s : Backend) (timer : Ticket) : Backend :=
  if (s.cached timer.address).map Prompt.token = some timer.token then s.uncache timer.address else s

def expireShown (s : Backend) (timer : Ticket) : Backend :=
  match s.pairing with
  | none => s
  | some shown =>
    if s.pairingOwner = false ∨ shown.token ≠ timer.token then s
    else { s with pairing := some { shown with expired := true } }.cancelPairing timer.token

/-- The expiry timer of a prompt. -/
def expire (s : Backend) (index : Nat) : Backend :=
  match s.timers[index]? with
  | none => s
  | some timer =>
    let s := { s with timers := s.timers.eraseIdx index, fired := s.fired ++ [timer.token] }
    if timer.epoch ≠ s.epoch then s else (s.expireCached timer).expireShown timer

/-- The daemon has changed or gone. -/
def reset (s : Backend) (owner : String) : Backend :=
  { s with
    epoch := s.epoch + 1, owner, pairing := none, pairingCache := [], pairingValidation := false
    error := if owner.isEmpty then "Floss is not running." else "" }

/-- The passkey as it is displayed, with leading zeros. -/
def sspCode (passkey : Nat) : String :=
  let digits := toString passkey
  String.ofList (List.replicate (6 - digits.length) '0') ++ digits

/-- Everything that can happen to the backend. The first four come from the daemon. -/
inductive Event where
  | sspRequest (address : String) (variant : Nat) (passkey : Nat)
  | pinRequest (address : String) (min16 : Bool)
  | pinDisplay (address : String) (code : String)
  | bondStateChanged (address : String) (state : Nat)
  | deviceCleared (address : String)
  | attach (registered : Bool)
  | detach (view : Nat)
  | unregistered (registered : Bool)
  | answer (token : Nat) (accept : Bool) (pin : String)
  | replied (index : Nat) (outcome : Outcome)
  | bondState (index : Nat) (state : Except String Nat)
  | expire (index : Nat)
  | reset (owner : String)
deriving Repr, DecidableEq

/-- A callback, which is heard from the current daemon only. -/
def callback (s : Backend) (handled : Backend) : Backend := if s.owner.isEmpty then s else handled

def step (s : Backend) : Event → Backend
  | .sspRequest address variant passkey =>
    s.callback (match variant with
      | 0 => s.prompt address .confirm (sspCode passkey) 0
      | 1 => s.prompt address .passkey "" 0
      | 3 => s.prompt address .display (sspCode passkey) 0
      | _ => s)
  | .pinRequest address min16 => s.callback (s.prompt address .pin "" (if min16 then 16 else 1))
  | .pinDisplay address code => s.callback (s.prompt address .display code 0)
  | .bondStateChanged address state => s.callback (if state = 1 then s else s.clearPairing address)
  | .deviceCleared address => s.callback (s.clearPairing address)
  | .attach registered => s.attachPairingView registered
  | .detach view => s.detachPairingView view
  | .unregistered registered => s.acquirePairing registered
  | .answer token accept pin => s.answerPairing token accept pin
  | .replied index outcome => s.replied index outcome
  | .bondState index state => s.bondStateReturned index state
  | .expire index => s.expire index
  | .reset owner => s.reset owner

def run (s : Backend) (events : List Event) : Backend := events.foldl step s

end Backend
end FlossDesktop.Pairing
