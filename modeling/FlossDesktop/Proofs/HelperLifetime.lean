import FlossDesktop.Lifetime
import FlossDesktop.Proofs.UsbClaims

/-! What the helper process holds, call by call. The radio is taken over when its firmware is there, the service is
announced when a virtual adapter is registered for it, and whatever fails, all that was taken is given back once, the
virtual adapter before the radio and the radio before its handle. -/

namespace FlossDesktop.Lifetime

open Dialogue (Event Allowed)
open Usb (Teardown Cancellation Supply Alternate Endpoints)

/-- How far the helper has got. `files` counts the steps by which the packet size is published. -/
structure Progress where
  bound : Bool := false
  index : Option Nat := none
  files : Nat := 0
  announced : Bool := false
deriving Repr, DecidableEq

/-- The kernel's driver counts as given back whatever the call answers, as a failure is only reported. `cancelled` is the
code of the cancellation of all transfers. -/
structure Held where
  context : Bool := false
  list : Bool := false
  handle : Bool := false
  config : Bool := false
  claims : Bool × Bool × Bool := (false, false, false)
  vhci : Bool := false
  socket : Option Nat := none
  progress : Progress := {}
  cancelled : Option Int := none
  exited : Option Int := none
deriving Repr, DecidableEq

namespace Held

variable (held : Held)

def permits : Request → Bool
  | .libusbInit => !held.context
  | .getDeviceList => held.context && !held.list
  | .opens _ => held.list && !held.handle
  | .busAddress _ => held.list && held.handle
  | .freeDeviceList => held.list
  | .getConfig => held.handle && !held.list && !held.config
  | .freeConfig => held.config
  | .kernelDriverActive => held.handle && held.claims == (false, false, false)
  | .attachKernelDriver => held.handle && !held.claims.2.1 && !held.claims.2.2 && !held.vhci
  | .readBluetooth | .now | .sleep | .stopping => held.handle
  | .socket => held.handle && held.claims == (false, false, false) && held.socket.isNone
  | .bind fd _ => held.socket == some fd
  | .closeSocket fd => held.socket == some fd
  | .detachKernelDriver => held.claims == (false, false, false) && held.progress.bound
  | .claimInterface interface =>
    (interface == 0 && held.claims == (true, false, false)) || (interface == 1 && held.claims == (true, true, false))
  | .setAlt | .startReceivers => held.claims.2.2
  | .openVhci => held.claims == (true, true, true) && !held.vhci
  | .writeVhci record => held.vhci && held.progress.index.isNone && record == [0xff, 0]
  | .pollVhci | .readVhci => held.vhci && held.progress.index.isNone
  | .writeSize _ => held.vhci && held.progress.index == some 0 && held.progress.files == 0
  | .setPermissions => held.progress.files == 1
  | .rename => held.progress.files == 2
  | .notify => held.progress.files == 3 && !held.progress.announced
  | .turn => held.claims == (true, true, true) && held.vhci && held.progress.announced
  | .closeVhci => held.vhci
  | .cancel usb => held.context && !held.vhci && held.cancelled.isNone && usb.claims == held.claims
  | .releaseInterface interface =>
    held.cancelled == some 0 && ((interface == 0 && held.claims.2.1 && !held.claims.2.2) || (interface == 1 && held.claims.2.2))
  | .close => held.cancelled == some 0 && held.handle && !held.list && !held.config && held.claims == (false, false, false)
  | .libusbExit => held.context && !held.list && !held.handle && !held.config
  | .exits status => status == 1 && held.cancelled.any fun code => code != 0

def next : Event Request Answer → Held
  | ⟨.libusbInit, code⟩ => { held with context := code == 0 }
  | ⟨.getDeviceList, devices⟩ => { held with list := devices.isSome }
  | ⟨.opens _, code⟩ => { held with handle := code == 0 }
  | ⟨.freeDeviceList, _⟩ => { held with list := false }
  | ⟨.getConfig, config⟩ => { held with config := config.isSome }
  | ⟨.freeConfig, _⟩ => { held with config := false }
  | ⟨.attachKernelDriver, _⟩ => { held with claims := (false, held.claims.2) }
  | ⟨.socket, answer⟩ => { held with socket := answer.toOption }
  | ⟨.bind _ _, answer⟩ => { held with progress := { held.progress with bound := answer.isOk } }
  | ⟨.closeSocket _, _⟩ => { held with socket := none }
  | ⟨.detachKernelDriver, code⟩ => { held with claims := (code == 0, held.claims.2) }
  | ⟨.claimInterface interface, code⟩ =>
    if interface = 0 then { held with claims := (held.claims.1, code == 0, held.claims.2.2) }
    else { held with claims := (held.claims.1, held.claims.2.1, code == 0) }
  | ⟨.openVhci, answer⟩ => { held with vhci := answer.isOk }
  | ⟨.readVhci, outcome⟩ =>
    match registered outcome with
    | .ok (some index) => { held with progress := { held.progress with index := some index } }
    | _ => held
  | ⟨.writeSize _, answer⟩ | ⟨.setPermissions, answer⟩ | ⟨.rename, answer⟩ =>
    if answer.isOk then { held with progress := { held.progress with files := held.progress.files + 1 } } else held
  | ⟨.notify, answer⟩ => { held with progress := { held.progress with announced := answer.isOk } }
  | ⟨.closeVhci, _⟩ => { held with vhci := false }
  | ⟨.releaseInterface interface, _⟩ =>
    if interface = 0 then { held with claims := (held.claims.1, false, held.claims.2.2) }
    else { held with claims := (held.claims.1, held.claims.2.1, false) }
  | ⟨.close, _⟩ => { held with handle := false }
  | ⟨.libusbExit, _⟩ => { held with context := false }
  | ⟨.cancel usb, cancellation⟩ => { held with cancelled := some ({ usb with stopping := true }.cancel false cancellation).2 }
  | ⟨.exits status, _⟩ => { held with exited := some status }
  | _ => held

def watch (event : Event Request Answer) : Option Held :=
  if held.exited.isNone && held.permits event.1 then some (held.next event) else none

/-- Nothing is left. -/
def empty : Bool :=
  !held.context && !held.list && !held.handle && !held.config && held.claims == (false, false, false) && !held.vhci &&
    held.socket.isNone

/-- What is held between the opening of the radio and its end. -/
def attending (claims : Bool × Bool × Bool) (vhci : Bool) (progress : Progress) : Held :=
  { context := true, handle := true, claims, vhci, progress }

/-- What is held when no transfer is left. -/
def leaving (claims : Bool × Bool × Bool) (progress : Progress) : Held :=
  { attending claims false progress with cancelled := some 0 }

end Held

open Held (watch attending leaving)

/-- A process that returns has nothing left. One that exits in the middle of things could not cancel its transfers, and had
at least closed the virtual adapter. -/
def Settled (ending : Ending) (held : Held) : Prop :=
  match ending with
  | .returned _ => held.empty = true
  | .exited status => held.exited = some status ∧ held.vhci = false ∧ ∃ code, held.cancelled = some code ∧ code ≠ 0

variable {held last : Held} {claims : Bool × Bool × Bool} {progress : Progress}

/-- What a drop gives back. -/
def givenBack : Bool × Bool × Bool → List Teardown
  | (detached, claimed0, claimed1) =>
    (if claimed1 then [.setAlt, .release 1] else []) ++ (if claimed0 then [.release 0] else []) ++
      (if detached then [.attachKernelDriver] else []) ++ [.close, .libusbExit]

theorem drop_cases (usb : Usb) (cancellation : Cancellation) :
    let code := ({ usb with stopping := true }.cancel false cancellation).2
    (code ≠ 0 ∧ (usb.drop cancellation).2 = .exited 1) ∨ (code = 0 ∧ (usb.drop cancellation).2 = .released (givenBack usb.claims)) := by
  have kept : (Usb.cancel { usb with stopping := true } false cancellation).1.claims = usb.claims :=
    Usb.cancel_claims { usb with stopping := true } false cancellation
  unfold Usb.drop
  dsimp only
  split
  next failed => exact .inl ⟨failed, rfl⟩
  next done =>
    rw [← kept]
    exact .inr ⟨not_not.mp done, rfl⟩

def asked : Teardown → Request
  | .setAlt => .setAlt
  | .release interface => .releaseInterface interface
  | .attachKernelDriver => .attachKernelDriver
  | .close => .close
  | .libusbExit => .libusbExit

theorem teardownAll_cons {first : Teardown} {rest : List Teardown} {promise : Unit → Held → Prop}
    (seen : ∀ answer, watch held ⟨asked first, answer⟩ = some last) (allowed : Allowed watch (teardownAll rest) promise last) :
    Allowed watch (teardownAll (first :: rest)) promise held := by
  cases first with
  | setAlt => exact fun answer => ⟨last, seen answer, allowed⟩
  | release interface => exact fun answer => ⟨last, seen answer, allowed⟩
  | attachKernelDriver => exact fun answer => ⟨last, seen answer, allowed⟩
  | close => exact fun answer => ⟨last, seen answer, allowed⟩
  | libusbExit => exact fun answer => ⟨last, seen answer, allowed⟩

/-- Whatever is claimed, each of it is given back before the handle is closed. -/
theorem givenBack_allowed (claims : Bool × Bool × Bool) (progress : Progress) :
    Allowed watch (teardownAll (givenBack claims)) (fun _ after => after.empty = true) (leaving claims progress) := by
  have closed : Allowed watch (teardownAll [.close, .libusbExit]) (fun _ after => after.empty = true)
      (leaving (false, false, false) progress) := by
    apply teardownAll_cons fun _ => rfl
    exact teardownAll_cons (fun _ => rfl) rfl
  have attached : ∀ detached, Allowed watch (teardownAll (givenBack (detached, false, false))) (fun _ after => after.empty = true)
      (leaving (detached, false, false) progress) := by
    rintro (_ | _)
    · exact closed
    · exact teardownAll_cons (fun _ => rfl) closed
  have released : ∀ detached claimed0, Allowed watch (teardownAll (givenBack (detached, claimed0, false)))
      (fun _ after => after.empty = true) (leaving (detached, claimed0, false) progress) := by
    rintro detached (_ | _)
    · exact attached detached
    · exact teardownAll_cons (fun _ => rfl) (attached detached)
  obtain ⟨detached, claimed0, claimed1⟩ := claims
  cases claimed1 with
  | false => exact released detached claimed0
  | true =>
    apply teardownAll_cons fun _ => rfl
    exact teardownAll_cons (fun _ => rfl) (released detached claimed0)

/-- What is permitted is called, whatever comes back. -/
theorem call_next {request : Request} (live : held.exited = none) (permitted : held.permits request = true) :
    Allowed watch (call request) (fun answer after => after = held.next ⟨request, answer⟩) held := by
  intro answer
  refine ⟨held.next ⟨request, answer⟩, ?_, rfl⟩
  rw [watch, live, permitted]
  rfl

theorem drop_allowed (usb : Usb) (result : Except String Unit) (progress : Progress) :
    Allowed watch (drop usb result) Settled (attending usb.claims false progress) := by
  have permitted : (attending usb.claims false progress).permits (.cancel usb) = true := beq_self_eq_true usb.claims
  apply Allowed.bind (call_next rfl permitted)
  rintro cancellation _ rfl
  obtain ⟨failed, exited⟩ | ⟨done, released⟩ := drop_cases usb cancellation
  · rw [exited]
    have permitted : ((attending usb.claims false progress).next ⟨.cancel usb, cancellation⟩).permits (.exits 1) = true :=
      bne_iff_ne.mpr failed
    apply Allowed.bind (call_next rfl permitted)
    rintro _ _ rfl
    exact ⟨rfl, rfl, _, rfl, failed⟩
  · rw [released]
    have left : (attending usb.claims false progress).next ⟨.cancel usb, cancellation⟩ = leaving usb.claims progress := by
      unfold Held.next leaving
      dsimp only
      rw [done]
    rw [left]
    apply Allowed.bind (givenBack_allowed usb.claims progress)
    exact fun _ _ empty => empty

/-- What an opening leaves: an ending that is settled, or a radio of which nothing is claimed yet. -/
def Opened (result : Except Ending (Usb × Int × Int)) (after : Held) : Prop :=
  match result with
  | .error ending => Settled ending after
  | .ok (usb, _, _) => usb.claims = (false, false, false) ∧ after = attending (false, false, false) false {}

theorem loadDescriptors_allowed (wanted : Int) :
    Allowed watch (loadDescriptors wanted) (fun _ after => after = attending (false, false, false) false {})
      (attending (false, false, false) false {}) := by
  apply Allowed.bind (call_next rfl rfl)
  rintro (_ | config) _ rfl
  · exact rfl
  · exact fun _ => ⟨_, rfl, rfl⟩

theorem prepareUsb_allowed (selected : Nat) :
    Allowed watch (prepareUsb selected) Opened { context := true, list := true, handle := true } := by
  refine fun place => ⟨_, rfl, fun _ => ⟨_, rfl, ?_⟩⟩
  apply Allowed.bind (loadDescriptors_allowed 2)
  rintro (code | endpoints) _ rfl
  · apply Allowed.bind (drop_allowed {} _ {})
    exact fun _ _ settled => settled
  · apply Allowed.bind (call_next rfl rfl)
    rintro active _ rfl
    split
    · apply Allowed.bind (call_next rfl rfl)
      rintro attached _ rfl
      split
      · apply Allowed.bind (drop_allowed (Usb.opened endpoints) _ {})
        exact fun _ _ settled => settled
      · exact ⟨rfl, rfl⟩
    · exact ⟨rfl, rfl⟩

theorem openUsb_allowed : Allowed watch openUsb Opened {} := by
  have refused : ∀ found, Allowed watch (refuseRadios found) Opened { context := true, list := true } :=
    fun _ _ => ⟨_, rfl, fun _ => ⟨_, rfl, rfl⟩⟩
  unfold openUsb
  apply Allowed.bind (call_next rfl rfl)
  rintro code _ rfl
  split
  next failed =>
    change Held.empty { context := code == 0 } = true
    rw [beq_false_of_ne failed]
    rfl
  next done =>
    obtain rfl : code = 0 := not_not.mp done
    apply Allowed.bind (call_next rfl rfl)
    rintro (_ | devices) _ rfl
    · exact fun _ => ⟨_, rfl, rfl⟩
    · dsimp only
      split
      next selected same =>
        apply Allowed.bind (call_next rfl rfl)
        rintro code _ rfl
        change Allowed watch _ Opened { context := true, list := true, handle := code == 0 }
        split
        next done =>
          rw [done]
          exact prepareUsb_allowed selected
        next failed =>
          rw [beq_false_of_ne failed]
          exact refused 1
      next found _ => exact refused found.length

/-- The firmware is initialized while the kernel has the radio, or an error is returned. -/
def Bootstrapped (result : Except String Unit) (after : Held) : Prop :=
  ∃ bound, after = attending (false, false, false) false { bound } ∧ (result.isOk = true → bound = true)

theorem physicalIndex_allowed (bus address : Int) :
    Allowed watch (physicalIndex bus address) (fun _ after => after = attending (false, false, false) false {})
      (attending (false, false, false) false {}) := by
  apply Allowed.bind (call_next rfl rfl)
  rintro start _ rfl
  apply Allowed.repeatUntil (fun _ now => now = attending (false, false, false) false {}) rfl
  rintro ⟨⟩ _ rfl
  apply Allowed.bind (call_next rfl rfl)
  rintro listing _ rfl
  split
  · exact rfl
  · exact rfl
  · apply Allowed.bind (call_next rfl rfl)
    rintro now _ rfl
    split
    · exact rfl
    · exact fun _ => ⟨_, rfl, rfl⟩

theorem bootstrap_allowed (index : Nat) :
    Allowed watch (bootstrap index) (fun code after => ∃ bound, after = attending (false, false, false) false { bound } ∧
      (0 ≤ code → bound = true)) (attending (false, false, false) false {}) := by
  unfold bootstrap
  split
  · exact ⟨false, rfl, fun negative => absurd negative (by decide)⟩
  · apply Allowed.bind (call_next rfl rfl)
    rintro (errno | fd) _ rfl
    · exact ⟨false, rfl, fun good => absurd errno.property (by omega)⟩
    · apply Allowed.bind (call_next rfl (beq_self_eq_true _))
      rintro (errno | bound) _ rfl
      · apply Allowed.bind (call_next rfl (beq_self_eq_true _))
        rintro closed _ rfl
        exact ⟨false, rfl, fun good => absurd errno.property (by omega)⟩
      · apply Allowed.bind (call_next rfl (beq_self_eq_true _))
        rintro closed _ rfl
        exact ⟨true, rfl, fun _ => rfl⟩

theorem checked_ok {code : Int} {operation : String} (ok : (checked code operation).isOk = true) : 0 ≤ code := by
  unfold checked at ok
  split at ok
  · cases ok
  · omega

theorem bootstrapped_allowed (bus address : Int) :
    Allowed watch (bootstrapped bus address).run Bootstrapped (attending (false, false, false) false {}) := by
  apply Allowed.andThen (physicalIndex_allowed bus address)
  · rintro index _ rfl
    apply Allowed.bind (bootstrap_allowed index.toNat)
    rintro code _ ⟨bound, rfl, good⟩
    exact ⟨bound, rfl, fun ok => good (checked_ok ok)⟩
  · rintro reason _ rfl
    exact ⟨false, rfl, nofun⟩

/-- A radio is taken over from the kernel step by step, and a failure leaves it where it was. -/
theorem claim_allowed {usb : Usb} (free : usb.claims = (false, false, false)) (ready : progress.bound = true) :
    Allowed watch (claim usb) (fun result after => after = attending result.1.claims false progress ∧
      (0 ≤ result.2 → result.1.claims = (true, true, true))) (attending (false, false, false) false progress) := by
  have reached : ∀ claiming : Usb.Claiming, ∀ claims, claims = (claiming.detach == 0, claiming.detach == 0 && claiming.claim0 == 0,
      claiming.detach == 0 && claiming.claim0 == 0 && claiming.claim1 == 0) →
      attending claims false progress = attending (usb.claim claiming).1.claims false progress ∧
        (0 ≤ (usb.claim claiming).2 → (usb.claim claiming).1.claims = (true, true, true)) := by
    rintro claiming _ rfl
    obtain ⟨claims, good⟩ := Usb.claim_claims free claiming
    refine ⟨by rw [claims], fun accepted => ?_⟩
    obtain ⟨detached, first, last⟩ := good accepted
    rw [claims, detached, first, last]
    rfl
  have permitted : (attending (false, false, false) false progress).permits .detachKernelDriver = true := ready
  unfold claim
  apply Allowed.bind (call_next rfl permitted)
  rintro detach _ rfl
  split
  next failed => exact reached { detach } _ (by rw [beq_false_of_ne failed]; rfl)
  next detached =>
    obtain rfl : detach = 0 := not_not.mp detached
    apply Allowed.bind (call_next rfl rfl)
    rintro claim0 _ rfl
    split
    next failed => exact reached { claim0 } _ (by rw [beq_false_of_ne failed]; rfl)
    next first =>
      obtain rfl : claim0 = 0 := not_not.mp first
      apply Allowed.bind (call_next rfl rfl)
      rintro claim1 _ rfl
      split
      next failed => exact reached { claim1 } _ (by rw [beq_false_of_ne failed]; rfl)
      next last =>
        obtain rfl : claim1 = 0 := not_not.mp last
        apply Allowed.bind (call_next rfl rfl)
        rintro setAlt _ rfl
        split
        · exact reached { setAlt } _ rfl
        · apply Allowed.bind (call_next rfl rfl)
          rintro supplies _ rfl
          exact reached { first := supplies.1, second := supplies.2.1, third := supplies.2.2 } _ rfl

section Registration

/-- The radio is claimed, and the virtual adapter is open. -/
abbrev serving (progress : Progress) : Held := attending (true, true, true) true progress

theorem writeRecord_allowed (waiting : progress.index = none) :
    Allowed watch (writeRecord [0xff, 0]) (fun _ after => after = serving progress) (serving progress) := by
  have permitted : (serving progress).permits (.writeVhci [0xff, 0]) = true := by
    change (true && progress.index.isNone && true) = true
    rw [waiting]
    rfl
  apply Allowed.repeatUntil (fun _ now => now = serving progress) rfl
  rintro ⟨⟩ _ rfl
  apply Allowed.bind (call_next rfl permitted)
  rintro (_ | _ | _ | reason) _ rfl <;> exact rfl

/-- The number of the virtual adapter is taken from the only reply that is valid. -/
theorem waitRegistration_allowed (waiting : progress.index = none) (timeout : Nat) :
    Allowed watch (waitRegistration timeout) (fun result after => match result with
      | .ok index => after = serving { progress with index := some index }
      | .error _ => after = serving progress) (serving progress) := by
  have permitted : (serving progress).permits .readVhci = true ∧ (serving progress).permits .pollVhci = true := by
    change (true && progress.index.isNone) = true ∧ (true && progress.index.isNone) = true
    rw [waiting]
    exact ⟨rfl, rfl⟩
  apply Allowed.bind (call_next rfl rfl)
  rintro start _ rfl
  apply Allowed.repeatUntil (fun _ now => now = serving progress) rfl
  rintro ⟨⟩ _ rfl
  apply Allowed.bind (call_next rfl rfl)
  rintro stopping _ rfl
  split
  · exact rfl
  · apply Allowed.bind (call_next rfl rfl)
    rintro now _ rfl
    split
    · exact rfl
    · apply Allowed.bind (call_next rfl permitted.2)
      rintro code _ rfl
      split
      · exact rfl
      · split
        · exact rfl
        · apply Allowed.bind (call_next rfl permitted.1)
          rintro outcome _ rfl
          unfold Held.next
          dsimp only
          rcases registered outcome with reason | _ | index
          · exact rfl
          · exact rfl
          · exact rfl

/-- How a registration ends. A success has been announced. -/
def Registered (result : Except String Unit) (after : Held) : Prop :=
  ∃ progress, after = serving progress ∧ (result.isOk = true → progress.announced = true)

theorem failed_registered {after : Held} (reason : String) (serves : ∃ progress, after = serving progress) :
    Registered (.error reason) after :=
  serves.imp fun _ same => ⟨same, nofun⟩

/-- Everything is published before the service is announced. -/
theorem publish_allowed (bound : Bool) (size : Nat) :
    Allowed watch (publish size).run Registered (serving { bound, index := some 0 }) := by
  apply Allowed.andThen (call_next rfl rfl)
  · rintro _ _ rfl
    apply Allowed.andThen (call_next rfl rfl)
    · rintro _ _ rfl
      apply Allowed.andThen (call_next rfl rfl)
      · rintro _ _ rfl
        apply (call_next rfl rfl).imp
        rintro result _ rfl
        exact ⟨_, rfl, id⟩
      · rintro reason _ rfl
        exact failed_registered reason ⟨_, rfl⟩
    · rintro reason _ rfl
      exact failed_registered reason ⟨_, rfl⟩
  · rintro reason _ rfl
    exact failed_registered reason ⟨_, rfl⟩

theorem register_allowed (bound : Bool) (size : Nat) : Allowed watch (register size).run Registered (serving { bound }) := by
  apply Allowed.andThen (writeRecord_allowed rfl)
  · rintro _ _ rfl
    apply Allowed.andThen (waitRegistration_allowed rfl 5000)
    · rintro index _ rfl
      dsimp only
      split
      next first =>
        rw [first]
        exact publish_allowed bound size
      · exact failed_registered _ ⟨_, rfl⟩
    · rintro reason _ rfl
      exact failed_registered reason ⟨_, rfl⟩
  · rintro reason _ rfl
    exact failed_registered reason ⟨_, rfl⟩

end Registration

/-- The main loop keeps what is claimed. -/
theorem mainLoop_allowed {usb : Usb} (claimed : usb.claims = (true, true, true)) (announced : progress.announced = true) :
    Allowed watch (mainLoop usb) (fun result after => after = attending result.1.claims true progress)
      (serving progress) := by
  have permitted : (serving progress).permits .turn = true := announced
  apply Allowed.repeatUntil (fun helper now => helper.usb.claims = (true, true, true) ∧ now = serving progress) ⟨claimed, rfl⟩
  rintro helper _ ⟨claimed, rfl⟩
  split
  · change serving progress = attending helper.usb.claims true progress
    rw [claimed]
  · apply Allowed.bind (call_next rfl permitted)
    rintro turn _ rfl
    refine ⟨?_, rfl⟩
    cases turned : helper.turn turn with
    | none => exact claimed
    | some after => exact (Helper.turn_claims turned).trans claimed

theorem attended_allowed {usb : Usb} (free : usb.claims = (false, false, false)) (bus address : Int) :
    Allowed watch (attended usb bus address)
      (fun result after => ∃ progress, after = attending result.1.claims result.2.1 progress)
      (attending (false, false, false) false {}) := by
  apply Allowed.bind (bootstrapped_allowed bus address)
  rintro (reason | ⟨⟩) _ ⟨bound, rfl, good⟩
  · exact ⟨{ bound }, by rw [free]⟩
  · apply Allowed.bind (claim_allowed free (good rfl))
    rintro ⟨usb, code⟩ _ ⟨rfl, claimed⟩
    dsimp only at claimed ⊢
    split
    · exact ⟨{ bound }, rfl⟩
    next ok =>
      have claimed : usb.claims = (true, true, true) := claimed (checked_ok (by rw [ok]; rfl))
      rw [claimed]
      apply Allowed.bind (call_next rfl rfl)
      rintro (reason | ⟨⟩) _ rfl
      · exact ⟨{ bound }, by rw [claimed]; rfl⟩
      · apply Allowed.bind (register_allowed bound _)
        rintro (reason | ⟨⟩) _ ⟨progress, rfl, announced⟩
        · exact ⟨progress, by rw [claimed]⟩
        · apply Allowed.bind (mainLoop_allowed claimed (announced rfl))
          rintro result _ rfl
          exact ⟨progress, rfl⟩

theorem run_allowed : Allowed watch run Settled {} := by
  apply Allowed.bind openUsb_allowed
  rintro (ending | ⟨usb, bus, address⟩) after opened
  · exact opened
  · obtain ⟨free, rfl⟩ := opened
    apply Allowed.bind (attended_allowed free bus address)
    rintro ⟨usb, serves, result⟩ _ ⟨progress, rfl⟩
    cases serves with
    | false => exact drop_allowed usb result progress
    | true =>
      apply Allowed.bind (call_next rfl rfl)
      rintro _ _ rfl
      exact drop_allowed usb result progress

/-- Whatever the kernel and the radio answer, every call of the helper is one that is permitted by what it holds then, and
when it ends nothing is left, unless its transfers could not be cancelled. -/
theorem holds_what_it_needs (answer : List (Event Request Answer) → (request : Request) → Answer request) (fuel : Nat) :
    ∃ last, Monitor.run watch {} (Dialogue.execute answer fuel run []).1 = some last ∧
      ∀ ending ∈ (Dialogue.execute answer fuel run []).2, Settled ending last :=
  run_allowed.run answer fuel (Monitor.run_nil _)

end FlossDesktop.Lifetime
