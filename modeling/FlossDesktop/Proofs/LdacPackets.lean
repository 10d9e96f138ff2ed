import FlossDesktop.Ldac
import FlossDesktop.Library.Monitor

/-! What the LDAC source hands over. A call is watched against what it finds outside: a frame
that is due is read and encoded, unless the audio, the queue or the service ends the call. A
packet is exactly one piece of what the encoder wrote, so none of it is lost, repeated or put
behind a gap, and the numbers that come with a packet are those of the frames since the last
one. -/

namespace FlossDesktop.Ldac

variable {κ ε : Type}

/-- The next frame: some audio is made a whole one with silence, and none is none. -/
def World.frame (world : World) (size : Nat) : Option Bytes :=
  let pcm := (world.reads.headD []).take size
  if pcm.isEmpty && size != 0 then none else some (pcm ++ List.replicate (size - pcm.length) 0)

/-- What is known of a call from what it finds and its marks. `due` frames are still to be
encoded; `payload`, `layer` and `done` belong to the packet under way, and after the last mark
of a call that ends early the account is `closed`. -/
structure Account (κ : Type) where
  timestamp : Nat
  client : Option κ
  world : World := {}
  due : Nat := 0
  bytesRead : Nat := 0
  done : Nat := 0
  layer : Nat := 0
  payload : Bytes := []
  closed : Bool := false
deriving Repr, DecidableEq

/-- The time of a packet of some frames. -/
def duration (sampleRate layer : Nat) : Nat := layer % 2 ^ 16 * ldacFrameSize sampleRate

def Account.encoding (account : Account κ) (client : κ) (pcm : Bytes) (frames : Nat) (output : Bytes) : Account κ :=
  { account with
    client := some client
    world := { account.world with reads := account.world.reads.tail }
    due := account.due - 1
    bytesRead := account.bytesRead + pcm.length
    done := account.done + 1
    layer := account.layer + frames
    payload := output }

def Account.close (account : Account κ) (client : Option κ) : Account κ := { account with client, closed := true }

def Account.sent (sampleRate : Nat) (account : Account κ) (more : Bool) : Account κ :=
  { account with
    world := { account.world with accepts := account.world.accepts.tail }
    timestamp := (account.timestamp + duration sampleRate account.layer) % 2 ^ 32
    done := 0
    layer := 0
    payload := []
    closed := !more }

section
variable (transcode : κ → Bytes → Nat → κ × Except ε Bytes) (room : Nat)

/-- What has to become of a frame that is due. -/
def Account.next (size : Nat) (account : Account κ) : Mark × Account κ :=
  match account.world.frame size, account.client with
  | none, client => (.underflow account.due, account.close client)
  | some _, none => (.dropped, account.close none)
  | some pcm, some client =>
    if room = 0 then (.dropped, account.close (some client))
    else
      match transcode client pcm room with
      | (client, .ok (frames :: output)) => (.encoded pcm frames.toNat output, account.encoding client pcm frames.toNat output)
      | (client, _) => (.dropped, account.close (some client))

/-- The rules of a call. What was encoded is handed over before anything else happens, in one
piece and with its numbers. -/
def Account.watch (sampleRate size : Nat) (account : Account κ) (mark : Mark) : Option (Account κ) :=
  if account.closed then none
  else
    match mark with
    | .enqueued packet doneNbFrame bytesRead more =>
      if packet == { timestamp := account.timestamp, payload := account.payload, layerSpecific := account.layer % 2 ^ 16 } &&
          !account.payload.isEmpty && doneNbFrame == account.done && bytesRead == account.bytesRead &&
          more == account.world.accepts.headD true then
        some (account.sent sampleRate more)
      else none
    | mark =>
      if account.payload.isEmpty && account.due != 0 && mark == (account.next transcode room size).1 then
        some (account.next transcode room size).2
      else none

end

/-- What the filling of a packet keeps of the control block. -/
structure Same (cb after : EncoderCb κ) : Prop where
  timestamp : after.timestamp = cb.timestamp
  feedingParams : after.feedingParams = cb.feedingParams
  sampleRate : after.sampleRate = cb.sampleRate

theorem Same.trans {first second third : EncoderCb κ} (before : Same first second) (after : Same second third) :
    Same first third :=
  ⟨after.timestamp.trans before.timestamp, after.feedingParams.trans before.feedingParams,
    after.sampleRate.trans before.sampleRate⟩

theorem Same.dropped {cb after : EncoderCb κ} (same : Same cb after) : Same cb after.dropped :=
  ⟨same.timestamp, same.feedingParams, same.sampleRate⟩

theorem Same.served {cb after : EncoderCb κ} (same : Same cb after) (client : Option κ) :
    Same cb { after with codecClient := client } :=
  ⟨same.timestamp, same.feedingParams, same.sampleRate⟩

theorem Same.readSize {cb after : EncoderCb κ} (same : Same cb after) : readSize after = readSize cb := by
  rw [Ldac.readSize, Ldac.readSize, same.feedingParams]

/-- How an account stands to a packet that was filled, with what is left outside. -/
inductive Settled (before : Account κ) (nbFrame bytesRead : Nat) (world : World) (account : Account κ) : Filled → Prop where
  | gaveUp (closed : account.closed = true) (nothing : account.payload = []) :
      Settled before nbFrame bytesRead world account .gaveUp
  | nothing {packet : Packet} (none : packet.payload = []) (nothing : account.payload = [])
      (ended : account.closed = true ∨ account.due = 0) : Settled before nbFrame bytesRead world account (.packet packet 0)
  | something {packet : Packet} {left : Nat} (opened : account.closed = false) (some : packet.payload ≠ [])
      (payload : packet.payload = account.payload) (layer : packet.layerSpecific = account.layer % 2 ^ 16)
      (done : account.done + left = before.done + nbFrame) (bytes : account.bytesRead = bytesRead)
      (outside : account.world = world) (due : account.due = left) :
      Settled before nbFrame bytesRead world account (.packet packet left)

theorem Settled.later {before account : Account κ} {nbFrame bytesRead : Nat} {world : World} {client : κ} {pcm : Bytes}
    {frames : Nat} {filled : Filled}
    (settled : Settled (before.encoding client pcm frames []) nbFrame bytesRead world account filled) :
    Settled before (nbFrame + 1) bytesRead world account filled := by
  cases settled with
  | gaveUp closed nothing => exact .gaveUp closed nothing
  | nothing none nothing ended => exact .nothing none nothing ended
  | something opened some payload layer done bytes outside due =>
    refine .something opened some payload layer ?_ bytes outside due
    dsimp only [Account.encoding] at done
    omega

variable (transcode : κ → Bytes → Nat → κ × Except ε Bytes) (room : Nat)

def sentBytes (marks : List Mark) : Bytes := marks.flatMap fun
  | .enqueued packet _ _ _ => packet.payload
  | _ => []

/-- A service that writes no more than it is given room for. -/
def Fits (transcode : κ → Bytes → Nat → κ × Except ε Bytes) : Prop :=
  ∀ client pcm oLen after output, transcode client pcm oLen = (after, .ok output) → output.length ≤ oLen

variable {transcode room}

/-- A call of the media task: what it finds outside, and the frames that are due. -/
structure Call where
  world : World
  nbFrame : UInt8
deriving Repr, DecidableEq

variable (transcode room)

def step (cb : EncoderCb κ) (call : Call) : EncoderCb κ × List (Call × List Mark) :=
  let result := encodeFrames transcode room cb call.world call.nbFrame
  (result.1, [(call, result.2)])

/-- What goes on from one call to the next. -/
structure Clock (κ : Type) where
  timestamp : Nat
  client : Option κ

def clock (cb : EncoderCb κ) : Clock κ := ⟨cb.timestamp, cb.codecClient⟩

/-- All marks of some calls. -/
def marksOf (calls : List (Call × List Mark)) : List Mark := calls.flatMap Prod.snd

variable {transcode room}

variable (transcode room)

end FlossDesktop.Ldac
