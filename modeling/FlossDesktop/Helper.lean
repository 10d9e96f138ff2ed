import FlossDesktop.MainLoop
import FlossDesktop.Usb

/-! The whole helper: the main loop over the owner of the USB transfers. A turn is
one instruction of the loop; where that instruction is a call on the owner, the code
and the callbacks the loop sees are the ones the call produces. -/

namespace FlossDesktop

structure Helper where
  loop : MainLoop.State := {}
  usb : Usb

namespace Helper

/-- What the environment decides about one instruction. -/
inductive Turn where
  | loop (event : MainLoop.Event)
  | send (supply : Usb.Supply)
  | change (switch : Usb.Switch)
  | pump (poll : Usb.Poll)

/-- The chunks the receiver was called with during a call. -/
def callbacks (before after : Usb) : List MainLoop.Event :=
  (after.received.drop before.received.length).map fun chunk => .callback chunk.1 chunk.2

/-- A call that may run receive callbacks before it returns. -/
def returned (h : Helper) (usb : Usb) (code : Int) : Option Helper :=
  (h.loop.run (callbacks h.usb usb ++ [.returned code])).map fun loop => { loop, usb }

def turn (h : Helper) : Turn → Option Helper
  | .loop event =>
    match event with
    | .sent _ | .returned _ | .callback _ _ => none
    | event => (h.loop.step event).map fun loop => { h with loop }
  | .send supply =>
    match h.loop.phase, h.loop.pending with
    | .executing, .usb packet :: _ =>
      let (usb, code) := h.usb.send (packet.headD 0) packet.tail supply
      (h.loop.step (.sent code)).map fun loop => { loop, usb }
    | _, _ => none
  | .change switch =>
    match h.loop.phase with
    | .changing mode =>
      let (usb, code) := h.usb.setSco mode.toNat switch
      h.returned usb code
    | _ => none
  | .pump poll =>
    match h.loop.phase with
    | .pumping _ =>
      let (usb, code) := h.usb.pump poll
      h.returned usb code
    | _ => none

def run (h : Helper) : List Turn → Option Helper
  | [] => some h
  | turn :: rest => (h.turn turn).bind fun h => h.run rest

/-- The helper when its loop is entered. -/
def started (endpoints : Usb.Endpoints) : Helper := { usb := ((Usb.opened endpoints).claim {}).1 }

end Helper
end FlossDesktop
