import TrustOnboard.Se.Sending

/-
  Selecting and leaving an applet, `Applet.cpp`.

  An applet is selected on a logical channel that MANAGE
  CHANNEL opens and closes, or on the basic channel.

  Key definitions include:
    * `Applet.select`
    * `Applet.deselect`
    * `Applet.receiveChannel`
-/

------------------------------------------------------------
-- The Fields Of An Applet
------------------------------------------------------------

namespace TrustOnboard

namespace Se

variable {K : Type}

/- The AID of each applet. -/
def AppletName.aid : AppletName → Bytes
  | .mf =>
      [0xA0, 0x00, 0x00, 0x00, 0x87, 0x10, 0x01, 0xFF, 0x33,
        0xFF, 0xFF, 0x89, 0x01, 0x01, 0x01, 0x00]
  | .mias =>
      [0xA0, 0x00, 0x00, 0x00, 0x18, 0x80, 0x00, 0x00, 0x00,
        0x06, 0x62, 0x41, 0x51]

/- Change the fields of one applet. -/
def Sys.withApplet
    (s : Sys K)
    (name : AppletName)
    (a : Applet) : Sys K :=
  { s with
    applets := fun n => if n = name then a else s.applets n }

def setApplet
    (name : AppletName)
    (f : Applet → Applet) : Code K Unit :=
  Prog.modify (fun s => s.withApplet name (f (s.applets name)))

/-
  `getResponse(&_channel)`: the whole response is copied, and
  the two flags stand behind `_channel`.  What lies behind
  the flags is left out.
-/
def Applet.receiveChannel
    (a : Applet)
    (response : Bytes) : Applet :=
  match response with
  | [] => a
  | [c] => { a with channel := c }
  | [c, selected] =>
      { a with channel := c, isSelected := selected != 0 }
  | c :: selected :: basic :: _ =>
      { channel := c
        isSelected := selected != 0
        isBasic := basic != 0 }

end Se

end TrustOnboard

------------------------------------------------------------
-- Selection
------------------------------------------------------------

namespace TrustOnboard

namespace Se

variable {K : Type}

/- MANAGE CHANNEL with its two forms. -/
def openChannel : Bytes := [0x00, 0x70, 0x00, 0x00, 0x01]

def closeChannel (channel : UInt8) : Bytes :=
  [0x00, 0x70, 0x80, channel]

/-
  `Applet::deselect` for an applet that was initialised: the
  flag it leaves.
-/
def Applet.deselect
    (port : Port K)
    (fuel : Nat)
    (name : AppletName) : Code K Bool := do
  let a ← Prog.read (fun s => s.applets name)
  if a.isSelected && ! a.isBasic then do
    let ok ←
      Se.transmitCase1 port fuel 0x00 0x70 0x80 a.channel
    if ok then do
      let sw ← Prog.read (fun s => s.iface.getStatusWord)
      if sw = 0x9000 then
        setApplet name (fun a => { a with isSelected := false })
      else
        pure ()
    else
      pure ()
  else if a.isSelected && a.isBasic then
    setApplet name (fun a => { a with isSelected := false })
  else
    pure ()
  Prog.read (fun s => (s.applets name).isSelected)

/- SELECT by the AID, and whether the card accepts it. -/
def selectAid
    (port : Port K)
    (fuel : Nat)
    (name : AppletName)
    (cla : UInt8) : Code K Bool := do
  let ok ←
    transmitCase3 port fuel cla 0xA4 0x04 0x00 name.aid
  if ok then do
    let sw ← Prog.read (fun s => s.iface.getStatusWord)
    pure (sw == 0x9000 || sw / 2 ^ 8 == 0x61)
  else
    pure false

/- The selection on a channel that has just been opened. -/
def Applet.selectOpened
    (port : Port K)
    (fuel : Nat)
    (name : AppletName) : Code K Bool := do
  let response ← Prog.read (fun s => s.iface.getResponse)
  setApplet name (fun a => a.receiveChannel response)
  let channel ← Prog.read (fun s => (s.applets name).channel)
  let ok ← selectAid port fuel name (0x00 ||| channel)
  if ok then do
    setApplet name (fun a =>
      { a with isSelected := true, isBasic := false })
    pure true
  else do
    let channel ←
      Prog.read (fun s => (s.applets name).channel)
    let _ ←
      Se.transmitCase1 port fuel 0x00 0x70 0x80 channel
    pure false

/- `Applet::select` for an applet that was initialised. -/
def Applet.select
    (port : Port K)
    (fuel : Nat)
    (name : AppletName)
    (isBasic : Bool) : Code K Bool := do
  let _ ← Applet.deselect port fuel name
  if isBasic then do
    setApplet name (fun a => { a with channel := 0 })
    let ok ← selectAid port fuel name 0x00
    if ok then do
      setApplet name (fun a =>
        { a with isSelected := true, isBasic := true })
      pure true
    else
      pure false
  else do
    let ok ←
      Se.transmitCase2 port fuel 0x00 0x70 0x00 0x00 0x01
    if ok then do
      let sw ← Prog.read (fun s => s.iface.getStatusWord)
      if sw = 0x9000 then
        Applet.selectOpened port fuel name
      else
        pure false
    else
      pure false

end Se

end TrustOnboard
