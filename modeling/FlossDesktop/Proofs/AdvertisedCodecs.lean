import FlossDesktop.AudioDevices
import FlossDesktop.Proofs.ProfileRuns

/-! What the bridge asks of a codec. Whatever devices are listed and in what order their entries
come, it only asks for what the device it plays to has offered. -/

namespace FlossDesktop.AudioDevices

open Profiles (Codec Act)
open Profiles.Bridge (Device)

/-- Each parameter is one flag of those that were offered. -/
structure Fits (offer : Offer) (choice : Codec) : Prop where
  rate : has offer.rates choice.rate = true ∧ choice.rate ∈ [1, 2, 4, 8]
  mode : has offer.modes choice.mode = true ∧ choice.mode ∈ [1, 2]
  bits : has offer.bits choice.bits = true ∧ choice.bits ∈ [1, 2, 4]

theorem chooseRate_offered (codec : Nat) (rates : BitVec 32) (some : chooseRate codec rates ≠ 0) :
    has rates (chooseRate codec rates) = true ∧ chooseRate codec rates ∈ [1, 2, 4, 8] := by
  unfold chooseRate at some ⊢
  split
  next best => exact ⟨(Bool.and_eq_true _ _ ▸ best).2, by decide⟩
  next lower =>
    rw [if_neg lower] at some
    split
    next best => exact ⟨(Bool.and_eq_true _ _ ▸ best).2, by decide⟩
    next lower =>
      rw [if_neg lower] at some
      split
      next best => exact ⟨(Bool.and_eq_true _ _ ▸ best).2, by decide⟩
      next lower =>
        rw [if_neg lower] at some
        split
        next best => exact ⟨best, by decide⟩
        next lower =>
          rw [if_neg lower] at some
          split
          next best => exact ⟨best, by decide⟩
          next none => exact absurd (if_neg none) some

theorem chooseBits_offered (codec : Nat) (bits : BitVec 32) (some : chooseBits codec bits ≠ 0) :
    has bits (chooseBits codec bits) = true ∧ chooseBits codec bits ∈ [1, 2, 4] := by
  unfold chooseBits at some ⊢
  split
  next best => exact ⟨(Bool.and_eq_true _ _ ▸ best).2, by decide⟩
  next lower =>
    rw [if_neg lower] at some
    split
    next best => exact ⟨(Bool.and_eq_true _ _ ▸ best).2, by decide⟩
    next lower =>
      rw [if_neg lower] at some
      split
      next best => exact ⟨best, by decide⟩
      next none => exact absurd (if_neg none) some

theorem chooseMode_offered (modes : BitVec 32) (some : chooseMode modes ≠ 0) :
    has modes (chooseMode modes) = true ∧ chooseMode modes ∈ [1, 2] := by
  unfold chooseMode at some ⊢
  split
  next best => exact ⟨best, by decide⟩
  next lower =>
    rw [if_neg lower] at some
    split
    next best => exact ⟨best, by decide⟩
    next none => exact absurd (if_neg none) some

/-- A device offers a codec, and this is what was chosen of it. -/
def Offers (entries : Entries) (codec : Nat) (choice : Codec) : Prop :=
  ∃ elements capability, ("a2dp_caps", .arrays elements) ∈ entries ∧ capability ∈ elements ∧
    (offer capability).codec.toNat = codec ∧ codec < a2dpCodecCount ∧ choice = (offer capability).choice

/-- A codec has been offered, unless nothing was chosen for it. -/
def Drawn (entries : Entries) (codecs : List Codec) : Prop :=
  ∀ (codec : Nat) (choice : Codec), codecs[codec]? = some choice → choice = {} ∨ Offers entries codec choice

theorem choose_drawn {entries : Entries} {elements : List Capability} (listed : ("a2dp_caps", .arrays elements) ∈ entries)
    {codecs : List Codec} (drawn : Drawn entries codecs) {capability : Capability} (member : capability ∈ elements) :
    Drawn entries (choose codecs capability) := by
  unfold choose
  dsimp only
  split
  next known =>
    intro codec choice found
    rw [List.getElem?_set] at found
    split at found
    next same =>
      split at found
      · cases found
        refine .inr ⟨elements, capability, listed, member, same, ?_, rfl⟩
        have signed := BitVec.toInt_eq_toNat_cond (offer capability).codec
        rw [signed] at known
        split at known <;> omega
      · cases found
    · exact drawn codec choice found
  · exact drawn

theorem read_drawn (entries : Entries) : Drawn entries (read entries).codecs := by
  refine List.foldlRecOn (motive := fun reading => Drawn entries reading.codecs) entries Reading.read ?_ ?_
  · intro codec choice found
    have member : choice ∈ List.replicate a2dpCodecCount {} := List.mem_of_getElem? found
    exact .inl (List.eq_of_mem_replicate member)
  · rintro reading drawn ⟨key, value⟩ listed
    cases value with
    | arrays elements =>
      dsimp only [Reading.read]
      split
      next caps =>
        exact List.foldlRecOn (motive := Drawn entries) elements choose drawn fun codecs drawn capability member =>
          choose_drawn (caps ▸ listed) drawn member
      · exact drawn
    | string value =>
      dsimp only [Reading.read]
      split
      · exact drawn
      · split <;> exact drawn
    | int32 value =>
      dsimp only [Reading.read]
      split <;> exact drawn
    | array length =>
      dsimp only [Reading.read]
      split <;> exact drawn
    | other => exact drawn

/-- A codec that can be asked for was offered, with flags that fit. -/
theorem asked_offered {entries : Entries} {codecs : List Codec} (drawn : Drawn entries codecs) {codec : Nat} {choice : Codec}
    (found : codecs[codec]? = some choice) (usable : (choice.rate != 0 && choice.mode != 0 && choice.bits != 0) = true) :
    ∃ elements capability, ("a2dp_caps", .arrays elements) ∈ entries ∧ capability ∈ elements ∧
      (offer capability).codec.toNat = codec ∧ codec < a2dpCodecCount ∧ Fits (offer capability) choice := by
  simp only [Bool.and_eq_true, bne_iff_ne] at usable
  rcases drawn codec choice found with nothing | ⟨elements, capability, listed, member, same, known, rfl⟩
  · rw [nothing] at usable
    exact absurd rfl usable.1.1
  · refine ⟨elements, capability, listed, member, same, known, ?_, ?_, ?_⟩
    · exact chooseRate_offered _ _ usable.1.1
    · exact chooseMode_offered _ usable.1.2
    · exact chooseBits_offered _ _ usable.2

end FlossDesktop.AudioDevices

namespace FlossDesktop.Profiles.Bridge

open AudioDevices

/-- Whether the daemon was asked to configure a codec. -/
def asksCodec : Act → Bool
  | .setAudioConfig _ _ _ _ _ => true
  | _ => false

/-- The daemon is asked for a codec, with the parameters that were chosen for it. -/
def configures (address : String) (codec : Nat) (choice : Codec) : Act :=
  .setAudioConfig address codec choice.rate choice.bits choice.mode

theorem configures_inj {address other : String} {codec number : Nat} {choice chosen : Codec}
    (same : configures address codec choice = configures other number chosen) :
    address = other ∧ codec = number ∧ choice = chosen := by
  cases choice
  cases chosen
  cases same
  exact ⟨rfl, rfl, rfl⟩

/-- Nothing was asked of a device but what it can be asked for. -/
structure Asks (b after : Bridge) : Prop where
  codecs : after.codecs = b.codecs
  address : after.address = b.address
  asked : ∀ address codec choice, configures address codec choice ∈ after.log →
    configures address codec choice ∈ b.log ∨ address = b.address ∧ b.codec codec = some choice

variable {b middle after : Bridge}

namespace Asks

theorem refl (b : Bridge) : Asks b b := ⟨rfl, rfl, fun _ _ _ => .inl⟩

theorem trans (first : Asks b middle) (last : Asks middle after) : Asks b after where
  codecs := last.codecs.trans first.codecs
  address := last.address.trans first.address
  asked := by
    intro address codec choice member
    rcases last.asked address codec choice member with old | ⟨same, now⟩
    · exact first.asked address codec choice old
    · rw [Bridge.codec, first.codecs] at now
      exact .inr ⟨same.trans first.address, now⟩

/-- Fields aside, as long as the log is as it was. -/
theorem set (asks : Asks b middle) (codecs : after.codecs = middle.codecs) (address : after.address = middle.address)
    (log : after.log = middle.log) : Asks b after :=
  asks.trans ⟨codecs, address, fun _ _ _ member => .inl (log ▸ member)⟩

theorem note (asks : Asks b after) (act : Act) (other : asksCodec act = false) : Asks b (after.note act) where
  codecs := asks.codecs
  address := asks.address
  asked := by
    intro address codec choice member
    rcases List.mem_append.mp member with old | new
    · exact asks.asked address codec choice old
    · rw [← List.mem_singleton.mp new] at other
      cases other

theorem fail (asks : Asks b after) (reason : String) : Asks b (after.fail reason) := by
  unfold Bridge.fail
  dsimp only
  split
  · exact asks.set rfl rfl rfl
  · exact (asks.note (.report reason) rfl).set rfl rfl rfl

theorem dispatchBus (asks : Asks b after) (interruption : Interruption) : Asks b (after.dispatchBus interruption) := by
  cases interruption with
  | failure reason => exact asks.fail reason
  | _ => exact asks

theorem refused (asks : Asks b after) : Asks b after.refused.1 := asks.fail _

theorem reserveAttempts (asks : Asks b after) (attempts : List (Attempt Nat)) : Asks b (after.reserveAttempts attempts).1 := by
  induction attempts generalizing after with
  | nil => exact asks.refused
  | cons attempt rest ih =>
    unfold Bridge.reserveAttempts
    dsimp only
    have reserve : Asks b (after.note (.reserve after.hfp)) := asks.note _ rfl
    split
    · exact reserve.refused
    next token replied =>
      have taken : Asks b { after.note (.reserve after.hfp) with session := token } := reserve.set rfl rfl rfl
      have reserved := taken.note (.reserved token) rfl
      split
      · exact reserved
      · split
        · exact reserved.refused
        · split
          · exact (reserved.dispatchBus _).refused
          · exact ih (reserved.dispatchBus _)

theorem acquire (asks : Asks b after) (x : Acquisition) (reason : String) : Asks b (after.acquire x reason).1 := by
  unfold Bridge.acquire
  have reserved : Asks b (after.reserveAudio x).1 := asks.reserveAttempts _
  have started : Asks b ((after.reserveAudio x).1.requestStart x.accepted).1 := by
    unfold Bridge.requestStart
    dsimp only
    split
    · exact reserved.note _ rfl
    · exact (reserved.note _ rfl).fail _
  split
  · exact asks
  · dsimp only
    split
    · exact reserved
    · split
      · exact reserved
      · split
        · split
          · exact (started.dispatchBus _).fail _
          · exact started.dispatchBus _
        · split
          · exact started.fail _
          · exact started

theorem reread (asks : Asks b after) (rereading : Rereading) (reason : String) : Asks b (after.reread rereading reason).1 := by
  cases rereading with
  | same => exact asks
  | changed => exact asks.fail reason
  | misread => exact (asks.fail _).fail reason

theorem hfpPcmArrives (asks : Asks b after) (interruption : Interruption) (arrived : Bool) :
    Asks b (after.hfpPcmArrives interruption arrived).1 := by
  unfold Bridge.hfpPcmArrives
  split
  · exact asks
  · apply fail
    exact (asks.dispatchBus interruption).set rfl rfl rfl

theorem openHfp (asks : Asks b after) (turns : List HfpTurn) : Asks b (after.openHfp turns).1 := by
  induction turns generalizing after with
  | nil => exact asks.fail _
  | cons turn rest ih =>
    have next : ∀ interruption, Asks b (if (after.dispatchBus interruption).failed ∨ interruption = .cancelled then
        ((after.dispatchBus interruption).fail "Floss HFP PCM socket did not become ready", false)
        else (after.dispatchBus interruption).openHfp rest).1 := by
      intro interruption
      split
      · exact (asks.dispatchBus _).fail _
      · exact ih (asks.dispatchBus _)
    unfold Bridge.openHfp
    cases turn with
    | misread => exact asks.fail _
    | pending interruption => exact next interruption
    | unsocketed => exact asks.set rfl rfl rfl
    | postponed interruption => exact next interruption
    | unreachable => exact asks.set rfl rfl rfl
    | connected fd confirmed config interruption arrived =>
      have read : Asks b ({ after with audioFd := some fd }.reread confirmed "HFP transport changed while opening PCM").1 := by
        apply reread
        exact asks.set rfl rfl rfl
      dsimp only
      split
      · apply hfpPcmArrives
        exact read.set rfl rfl rfl
      · exact read

theorem startHfp (asks : Asks b after) (x : HfpStart) : Asks b (after.startHfp x).1 := by
  unfold Bridge.startHfp
  have acquired := (asks.note (.starting true) rfl).acquire x.acquisition "Floss did not complete HFP start successfully"
  dsimp only
  split
  · exact acquired.openHfp _
  · exact acquired

theorem openAudio (asks : Asks b after) (opening : AudioOpening) : Asks b (after.openAudio opening).1 := by
  cases opening with
  | misread => exact asks.fail _
  | unready => exact asks
  | unsocketed => exact asks.set rfl rfl rfl
  | unreachable fd => exact asks.set rfl rfl rfl
  | connected fd confirmed config =>
    have read : Asks b ({ after with audioFd := some fd }.reread confirmed "A2DP configuration changed while opening PCM").1 := by
      apply reread
      exact asks.set rfl rfl rfl
    unfold Bridge.openAudio
    dsimp only
    split
    · exact read.set rfl rfl rfl
    · exact read

theorem startAudio (asks : Asks b after) (x : AudioStart) : Asks b (after.startAudio x).1 := by
  unfold Bridge.startAudio
  have acquired := (asks.note (.starting false) rfl).acquire x.acquisition "Floss did not complete A2DP start successfully"
  dsimp only
  split
  · exact acquired.openAudio _
  · exact acquired

theorem startTransport (asks : Asks b after) (hfpStart : HfpStart) (audioStart : AudioStart) :
    Asks b (after.startTransport hfpStart audioStart).1 := by
  unfold Bridge.startTransport
  split
  · exact asks.startHfp _
  · exact asks.startAudio _

theorem stopTransport (asks : Asks b after) : Asks b after.stopTransport := by
  unfold Bridge.stopTransport
  dsimp only
  split
  · exact (asks.note _ rfl).set rfl rfl rfl
  · exact asks.set rfl rfl rfl

theorem codecAttempts {codec : Nat} {choice : Codec} (asks : Asks b after) (usable : b.codec codec = some choice)
    (attempts : List (Attempt Bool)) : Asks b (after.codecAttempts codec choice attempts).1 := by
  induction attempts generalizing after with
  | nil => exact asks
  | cons attempt rest ih =>
    have asked : Asks b (after.note (configures after.address codec choice)) := by
      refine ⟨asks.codecs, asks.address, fun other number chosen member => ?_⟩
      rcases List.mem_append.mp member with old | new
      · exact asks.asked other number chosen old
      · obtain ⟨rfl, rfl, rfl⟩ := configures_inj (List.mem_singleton.mp new)
        exact .inr ⟨asks.address, usable⟩
    unfold Bridge.codecAttempts
    dsimp only
    split
    · exact asked
    · exact asked
    · split
      · exact asked.dispatchBus _
      · exact ih (asked.dispatchBus _)

theorem requestCodec (asks : Asks b after) (profile : Nat) (first : Attempt Bool) (retries : List (Attempt Bool)) :
    Asks b (after.requestCodec profile first retries).1 := by
  unfold Bridge.requestCodec
  split
  · exact asks
  · exact asks
  next codec wanted =>
    split
    · exact asks
    next choice usable =>
      apply asks.codecAttempts
      rw [Bridge.codec, asks.codecs, ← Bridge.codec] at usable
      exact usable

theorem syncCaptureProfile (asks : Asks b after) (profile : Nat) (connection : Connection) :
    Asks b (after.syncCaptureProfile profile connection).1 := by
  unfold Bridge.syncCaptureProfile
  dsimp only
  generalize (if after.automatic then after.profileHasMicrophone profile else after.hfp) = wanted
  split
  · split
    · exact asks
    · cases connection with
      | uncreated => exact asks
      | refused => exact asks.set rfl rfl rfl
      | connected => exact asks.set rfl rfl rfl
  · split
    · exact asks.set rfl rfl rfl
    · exact asks

theorem chooseProfile (asks : Asks b after) (wanted : Bool) (x : Tick) : Asks b (after.chooseProfile wanted x) := by
  unfold Bridge.chooseProfile
  split
  · exact asks.set rfl rfl rfl
  · dsimp only
    split
    · exact (asks.requestCodec _ _ _).set rfl rfl rfl
    · exact (asks.requestCodec _ _ _).set rfl rfl rfl

theorem restart (asks : Asks b after) (x : Tick) : Asks b (after.restart x).1 := by
  unfold Bridge.restart
  have started := asks.startTransport x.hfpStart x.audioStart
  dsimp only
  split
  · exact started
  · unfold Bridge.fallBack
    have stopped := (started.note .fallback rfl).stopTransport
    dsimp only
    split
    · apply startAudio
      exact stopped.set rfl rfl rfl
    · exact stopped.set rfl rfl rfl

theorem giveUp (asks : Asks b after) (reason : String) : Asks b (after.giveUp reason) := by
  apply fail
  exact asks.set rfl rfl rfl

theorem reports (asks : Asks b after) (reported : List String) : Asks b (reported.foldl Bridge.fail after) := by
  induction reported generalizing after with
  | nil => exact asks
  | cons reason rest ih => exact ih (asks.fail reason)

theorem commit (asks : Asks b after) : Asks b after.commit := by
  have selected : Asks b { after with selectedProfile := after.requestedProfile } := asks.set rfl rfl rfl
  exact (selected.note _ rfl).set rfl rfl rfl

theorem publish (asks : Asks b after) (old : Bridge) (x : Tick) : Asks b (after.publish old x) := by
  unfold Bridge.publish
  have synced : Asks b (after.reformat.syncCaptureProfile after.reformat.requestedProfile x.connection).1 := by
    apply syncCaptureProfile
    exact asks.set rfl rfl rfl
  dsimp only
  split
  · exact synced.giveUp _
  · split
    · apply giveUp
      exact synced.set rfl rfl rfl
    · split
      · apply giveUp
        exact synced.set rfl rfl rfl
      · apply commit
        apply reports
        exact synced.set rfl rfl rfl

theorem switch (asks : Asks b after) (wanted : Bool) (x : Tick) : Asks b (after.switch wanted x) := by
  unfold Bridge.switch
  have chosen : Asks b (({ after with transitioning := true }.stopTransport).chooseProfile wanted x) := by
    apply chooseProfile
    apply stopTransport
    exact asks.set rfl rfl rfl
  dsimp only
  split
  · exact (chosen.restart x).publish _ x
  · exact (chosen.restart x).giveUp _

theorem publishFirst (asks : Asks b after) (x : Startup) : Asks b (after.publishFirst x).1 := by
  unfold Bridge.publishFirst
  have synced := asks.syncCaptureProfile after.requestedProfile x.connection
  dsimp only
  split
  · exact synced
  · apply reports
    exact synced.set rfl rfl rfl

theorem enterLoop (asks : Asks b after) (x : Startup) : Asks b (after.enterLoop x).1 := by
  unfold Bridge.enterLoop
  dsimp only
  split
  · exact asks.set rfl rfl rfl
  · obtain ⟨requestedProfile, chosen⟩ :=
      choices_eq { after.reformat with main := true, audioSource := after.reformat.audioFd } x.choices
    rw [chosen]
    apply publishFirst
    exact asks.set rfl rfl rfl

end Asks

/-- A device is listed under an address, whatever the case of its letters. -/
def Listed (entries : Entries) (address : String) : Prop :=
  ∃ named, (read entries).address = some named ∧ validAddress named = true ∧ named.toLower = address.toLower

/-- The device that the bridge plays to. -/
def Selected (b : Bridge) (entries : Entries) : Prop := Listed entries b.address

/-- The codec was offered by a device, and these are flags that were chosen of the offer when the device was read. -/
def Offered (entries : Entries) (codec rate bits mode : Nat) : Prop :=
  ∃ elements capability, ("a2dp_caps", .arrays elements) ∈ entries ∧ capability ∈ elements ∧
    (offer capability).codec.toNat = codec ∧ codec < a2dpCodecCount ∧
    (read entries).codecs[codec]? = some { rate, mode, bits } ∧ Fits (offer capability) { rate, mode, bits }

/-- A configuration was offered by the device with this address. -/
def Advertised (replies : List Reply) (address : String) (codec : Nat) (choice : Codec) : Prop :=
  ∃ reply ∈ replies, ∃ entries ∈ reply, Listed entries address ∧
    Offered entries codec choice.rate choice.bits choice.mode

/-- What the bridge knows of codecs it has been told by its device, and what it asked for was offered. -/
structure Heard (replies : List Reply) (b : Bridge) : Prop where
  fresh : b.address = "" → b.codecs = [] ∧ ∀ address codec choice, configures address codec choice ∉ b.log
  codecs : b.codecs = [] ∨ ∃ reply ∈ replies, ∃ entries ∈ reply, b.Selected entries ∧ b.codecs = (read entries).codecs
  asked : ∀ address codec choice, configures address codec choice ∈ b.log →
    address.toLower = b.address.toLower ∧ Advertised replies address codec choice

/-- What is said of the devices is one of the replies. -/
def Said (replies : List Reply) (devices : Option (List Device)) : Prop :=
  ∀ list, devices = some list → ∃ reply ∈ replies, list = AudioDevices.devices reply

namespace Heard

variable {replies : List Reply}

theorem start : Heard replies {} :=
  ⟨fun _ => ⟨rfl, fun _ _ _ => List.not_mem_nil⟩, .inl rfl, fun _ _ _ member => absurd member List.not_mem_nil⟩

/-- A codec that can be asked for was offered, with the flags that were chosen. -/
theorem offered (heard : Heard replies b) {codec : Nat} {choice : Codec} (chosen : b.codec codec = some choice) :
    Advertised replies b.address codec choice := by
  obtain ⟨found, usable⟩ := Option.filter_eq_some_iff.mp chosen
  rcases heard.codecs with none | ⟨reply, told, entries, member, selected, same⟩
  · rw [none] at found
    cases found
  · rw [same] at found
    obtain ⟨elements, capability, listed, inside, number, known, fits⟩ := asked_offered (read_drawn entries) found usable
    exact ⟨reply, told, entries, member, selected, elements, capability, listed, inside, number, known, found, fits⟩

theorem asks (heard : Heard replies b) (asks : Asks b after) : Heard replies after := by
  refine ⟨fun unknown => ?_, ?_, fun address codec choice member => ?_⟩
  · obtain ⟨none, quiet⟩ := heard.fresh (asks.address ▸ unknown)
    refine ⟨asks.codecs.trans none, fun address codec choice member => ?_⟩
    rcases asks.asked address codec choice member with old | ⟨-, usable⟩
    · exact quiet address codec choice old
    · rw [Bridge.codec, none] at usable
      cases usable
  · rw [asks.codecs]
    exact heard.codecs.imp_right fun ⟨reply, told, entries, member, selected, drawn⟩ =>
      ⟨reply, told, entries, member, by rw [Selected, asks.address]; exact selected, drawn⟩
  · rw [asks.address]
    rcases asks.asked address codec choice member with old | ⟨rfl, usable⟩
    · exact heard.asked address codec choice old
    · exact ⟨rfl, heard.offered usable⟩

/-- The devices are looked up: what is known of codecs comes from the device that was found. -/
theorem discoverDevice (heard : Heard replies b) {reply : Option (List Device)} (said : Said replies reply) :
    Heard replies (b.discoverDevice reply).1 := by
  unfold Bridge.discoverDevice
  dsimp only
  split
  · exact heard
  next device found =>
    obtain ⟨list, listed, first⟩ := Option.bind_eq_some_iff.mp found
    obtain ⟨reply, told, rfl⟩ := said list listed
    obtain ⟨entries, member, rfl⟩ := List.mem_map.mp (List.mem_of_find?_eq_some first)
    have usable := List.find?_some first
    simp only [Bridge.usable, Bool.and_eq_true, Option.any_eq_true, Bool.or_eq_true, beq_iff_eq] at usable
    obtain ⟨-, address, named, valid, same⟩ := usable
    have named : (read entries).address = some address := named
    split
    next changed =>
      have same : address.toLower = b.address.toLower := same.resolve_left changed.1
      have heard : Heard replies { b with codecs := (read entries).codecs } :=
        ⟨fun unknown => absurd unknown changed.1, .inr ⟨reply, told, entries, member, ⟨address, named, valid, same⟩, rfl⟩, heard.asked⟩
      exact heard.asks ((Asks.refl _).fail _)
    next =>
      have found : ((read entries).device.address).getD "" = address := by
        rw [Reading.device, named, Option.getD_some]
      rw [found]
      refine ⟨fun unknown => absurd unknown (validAddress_ne valid), .inr ⟨reply, told, entries, member, ?_, rfl⟩,
        fun other codec choice asked => ?_⟩
      · exact ⟨address, named, valid, rfl⟩
      · rcases same with unknown | same
        · exact absurd asked ((heard.fresh unknown).2 other codec choice)
        · obtain ⟨before, advertised⟩ := heard.asked other codec choice asked
          exact ⟨before.trans same.symm, advertised⟩

theorem rediscover (heard : Heard replies b) {x : Tick} (said : Said replies x.devices) : Heard replies (b.rediscover x).1 := by
  unfold Bridge.rediscover
  have due : Heard replies { b with discoveryDeadline := x.now + 1000 } := heard.asks ((Asks.refl b).set rfl rfl rfl)
  have found := due.discoverDevice said
  split
  · exact heard
  · dsimp only
    split
    · exact found.asks ((Asks.refl _).fail _)
    · split
      · exact found
      · exact found.asks ((Asks.refl _).reread _ _)

theorem automaticTick (heard : Heard replies b) {x : Tick} (said : Said replies x.devices) :
    Heard replies (b.automaticTick x) := by
  have observed : Heard replies (b.observe b.captureRequested x.now) := heard.asks ((Asks.refl b).set rfl rfl rfl)
  have found := observed.rediscover said
  unfold Bridge.automaticTick
  dsimp only
  split
  · exact observed
  · split
    · exact found
    · split
      · exact found
      · exact found.asks ((Asks.refl _).switch _ _)

/-- One event, with what it says of the devices if it is a tick. -/
theorem step (heard : Heard replies b) {event : Event} (said : ∀ x, event = .tick x → Said replies x.devices) :
    Heard replies (b.step event) := by
  cases quiet : event.quiet with
  | true =>
    obtain ⟨graphObjects, capture, requestedProfile, same, -⟩ := step_quiet b quiet
    rw [same]
    exact heard.asks ((Asks.refl b).set rfl rfl rfl)
  | false =>
    cases event with
    | failure reason => exact heard.asks ((Asks.refl b).fail reason)
    | tick x =>
      rw [step_tick]
      split
      · exact heard.automaticTick (said x rfl)
      · exact heard
    | _ => cases quiet

theorem run (heard : Heard replies b) (events : List Event) (said : ∀ x, .tick x ∈ events → Said replies x.devices) :
    Heard replies (b.run events) := by
  induction events generalizing b with
  | nil => exact heard
  | cons event rest ih =>
    apply ih (heard.step fun x tick => said x (tick ▸ List.mem_cons_self))
    exact fun x tick => said x (List.mem_cons_of_mem _ tick)

theorem startup {start : Startup} (said : Said replies start.devices) : Heard replies (startup start).1 := by
  have fresh : Heard replies {} := Heard.start
  have found := fresh.discoverDevice said
  unfold Bridge.startup
  generalize Bridge.discoverDevice {} start.devices = discovered at found ⊢
  dsimp only
  have chosen : Asks discovered.1 { discovered.1 with hfp := !discovered.1.a2dpAvailable } := (Asks.refl _).set rfl rfl rfl
  have started := chosen.startTransport start.hfpStart start.audioStart
  split
  · exact found
  · split
    · exact found.asks (started.enterLoop start)
    · exact found.asks started

end Heard

/-- Whatever is listed, and whatever happens, every configuration that the daemon is asked for has been offered, in
one of the snapshots, by the device it is asked for, which is the one that is played to: the codec is known, and the
rate, the depth and the channel mode of the call are each one of the flags of the offer. -/
theorem configurations_were_advertised (replies : List Reply) (start : Startup) (events : List Event) (connected : Bool)
    (first : Said replies start.devices) (ticks : ∀ x, .tick x ∈ events → Said replies x.devices)
    (address : String) (codec rate bits mode : Nat)
    (asked : .setAudioConfig address codec rate bits mode ∈ (runBridge start events connected).log) :
    address.toLower = (runBridge start events connected).address.toLower ∧
      ∃ reply ∈ replies, ∃ entries ∈ reply, Listed entries address ∧ Offered entries codec rate bits mode := by
  have started : Heard replies (startup start).1 := Heard.startup first
  have ended : Heard replies (runBridge start events connected) := by
    unfold runBridge finish
    dsimp only
    generalize done : (if (startup start).2 then (startup start).1.run events else (startup start).1) = b
    have heard : Heard replies b := by
      rw [← done]
      split
      · exact started.run events ticks
      · exact started
    split
    · exact heard.asks ((Asks.refl b).note _ rfl)
    · exact heard
  exact ended.asked address codec { rate, mode, bits } asked

/-- A headset that offers aptX with two rates, and that names its codec last. -/
def advertisingHeadset : Entries :=
  [("hfp_cap", .int32 1), ("a2dp_caps", .arrays [[("bits_per_sample", .int32 1), ("channel_mode", .int32 3),
    ("sample_rate", .int32 3), ("vendor", .other), ("codec_type", .int32 2)]]), ("address", .string "aa:BB:CC:DD:EE:FF")]

def advertisedStart : Startup := { sampleStart [] with devices := some (devices [advertisingHeadset]) }

def advertisedTick : Tick := { sampleTick 1000 true (sampleVoice none true) with devices := some (devices [advertisingHeadset]) }

/-- Of the two rates of the offer the higher one is asked for. -/
theorem configurations_were_advertised_aptx :
    .setAudioConfig "aa:BB:CC:DD:EE:FF" 2 2 1 2 ∈
        (runBridge advertisedStart [.profileSet (some 4), .tick advertisedTick] true).log ∧
      Offered advertisingHeadset 2 2 1 2 := by
  have asked : .setAudioConfig "aa:BB:CC:DD:EE:FF" 2 2 1 2 ∈
      (runBridge advertisedStart [.profileSet (some 4), .tick advertisedTick] true).log := by
    decide +kernel
  have said : Said [[advertisingHeadset]] (some (devices [advertisingHeadset])) := by
    rintro list ⟨⟩
    exact ⟨_, List.mem_cons_self, rfl⟩
  obtain ⟨-, reply, told, entries, member, -, offered⟩ := configurations_were_advertised [[advertisingHeadset]]
    advertisedStart [.profileSet (some 4), .tick advertisedTick] true said (fun x tick => by
      have same : x = advertisedTick := by simpa using tick
      exact same ▸ said) "aa:BB:CC:DD:EE:FF" 2 2 1 2 asked
  cases List.mem_singleton.mp told
  cases List.mem_singleton.mp member
  exact ⟨asked, offered⟩

end FlossDesktop.Profiles.Bridge
