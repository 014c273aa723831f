import TrustOnboard.Program.Basic
import TrustOnboard.Memory.Buffer

/-
  The secure element as the program reaches it,
  `SEInterface.cpp` and the part of `Applet.cpp` that sends
  commands.

  `transmitApdu` belongs to the platform and is a parameter.
  Everything above it works on two arrays of the interface,
  the command that is set up and the response that was
  received last.

  Key definitions include:
    * `Reply`
    * `Port`
    * `SEInterface`
    * `Sys`
    * `transmit`
    * `transmitCase1` to `transmitCase4`
-/

------------------------------------------------------------
-- The Platform
------------------------------------------------------------

namespace TrustOnboard

namespace Se

/-
  What `transmitApdu` comes back with: its result and the
  bytes it leaves in a response array of 2 + 256 bytes.
-/
structure Reply where
  ok : Bool
  bytes : Bytes
  hFits : bytes.length ≤ 258
  deriving DecidableEq

/- Status words fit in the response. -/
theorem success_fits :
    ([0x90, 0x00] : Bytes).length ≤ 258 := by
  decide

theorem notFound_fits :
    ([0x6A, 0x82] : Bytes).length ≤ 258 := by
  decide

/- The platform and the card behind it, over a state. -/
structure Port (K : Type) where
  transmitApdu : Bytes → K → Reply × K

/- A card that answers with the replies of a list. -/
def scripted : Port (List Reply) where
  transmitApdu _ replies :=
    match replies with
    | [] => (⟨false, [], by decide⟩, [])
    | r :: rest => (r, rest)

end Se

end TrustOnboard

------------------------------------------------------------
-- State
------------------------------------------------------------

namespace TrustOnboard

namespace Se

/- The fields of `SEInterface`. -/
structure SEInterface where
  apdu : Buffer
  apduLen : Nat
  apduResponse : Buffer
  apduResponseLen : Nat

/- The fields of `Applet` a command depends on. -/
structure Applet where
  isSelected : Bool
  isBasic : Bool
  channel : UInt8
  deriving DecidableEq, Repr

/- The two applets of the program. -/
inductive AppletName where
  | mf
  | mias
  deriving DecidableEq, Repr

/- `mias_key_pair_t`. -/
structure KeyPair where
  kid : UInt8
  flags : UInt16
  sizeInBits : UInt16
  pubFileId : UInt8 × UInt8
  hasCert : Bool
  deriving DecidableEq, Repr

/-
  The interface, its applets and what lies below it; the
  memory that is allocated for a file, and the local array
  `record` of the search for an object.
-/
structure Sys (K : Type) where
  iface : SEInterface
  applets : AppletName → Applet
  keypairs : List KeyPair
  block : Buffer
  record : Buffer
  env : K

/- The memory the readers of files write to. -/
inductive Region where
  | block
  | record
  deriving DecidableEq, Repr

/- What a run makes visible. -/
inductive Event where
  | exchanged (command : Bytes) (reply : Reply)
  | examined (off : Nat)
  | allocated (size : Nat)
  | wrote (region : Region) (off len : Nat)
  deriving DecidableEq

abbrev Code (K : Type) := Prog (Sys K) Event

abbrev Run (K : Type) := World (Sys K) Event

variable {K : Type}

/- The state with another interface. -/
def Sys.withIface
    (s : Sys K)
    (i : SEInterface) : Sys K :=
  { s with iface := i }

/- Nothing sent yet, the applets selected on channel 0. -/
def Sys.start (k : K) : Sys K where
  iface :=
    { apdu := fun _ => 0
      apduLen := 0
      apduResponse := fun _ => 0
      apduResponseLen := 0 }
  applets := fun _ =>
    { isSelected := true, isBasic := true, channel := 0 }
  keypairs := []
  block := fun _ => 0
  record := fun _ => 0
  env := k

end Se

end TrustOnboard

------------------------------------------------------------
-- Commands
------------------------------------------------------------

namespace TrustOnboard

namespace Se

variable {K : Type}

/- The bytes of the command that is set up. -/
def SEInterface.command (i : SEInterface) : Bytes :=
  i.apdu.load 0 i.apduLen

/- The interface with a response in it. -/
def SEInterface.receive
    (i : SEInterface)
    (bs : Bytes) : SEInterface :=
  { i with
    apduResponse := i.apduResponse.store 0 bs
    apduResponseLen := bs.length }

/- A two-byte response that starts with the given byte. -/
def SEInterface.answered
    (i : SEInterface)
    (sw1 : UInt8) : Bool :=
  i.apduResponseLen == 2 && i.apduResponse 0 == sw1

/- The command with its byte 4 from the response. -/
def SEInterface.patch (i : SEInterface) : SEInterface :=
  { i with apdu := i.apdu.store 4 [i.apduResponse 1] }

/- GET RESPONSE for the length in the response. -/
def SEInterface.setGetResponse
    (i : SEInterface) : SEInterface :=
  { i with
    apdu :=
      i.apdu.store 0
        [0x00 ||| (i.apdu 0 &&& 0x03), 0xC0, 0x00, 0x00,
          i.apduResponse 1]
    apduLen := 5 }

/- `transmitApdu` for the command that is set up. -/
def transmitApdu (port : Port K) : Code K Bool :=
  Prog.step (fun s =>
    let r := port.transmitApdu s.iface.command s.env
    (r.1.ok,
      { s with
        iface := s.iface.receive r.1.bytes
        env := r.2 },
      [.exchanged s.iface.command r.1]))

/- Change the interface. -/
def setIface
    (f : SEInterface → SEInterface) : Code K Unit :=
  Prog.modify (fun s => { s with iface := f s.iface })

/-
  `SEInterface::transmit(void)`.  It calls itself at its end,
  so that a call is a round of a loop.
-/
def transmit
    (port : Port K)
    (fuel : Nat) : Code K Bool :=
  Prog.loop fuel
    (fun (_ : Unit) => do
      let ok ← transmitApdu port
      if ¬ ok then
        pure (.inr false)
      else do
        let i ← Prog.read (·.iface)
        if i.answered 0x6C then do
          setIface (·.patch)
          pure (.inl ())
        else if i.answered 0x61 then do
          setIface (·.setGetResponse)
          pure (.inl ())
        else
          pure (.inr true))
    ()

/- Set up a command that starts with the given bytes. -/
def setCommand
    (bs : Bytes)
    (apduLen : Nat) : Code K Unit :=
  setIface (fun i =>
    { i with
      apdu := i.apdu.store 0 bs
      apduLen := apduLen % 2 ^ 16 })

/- `transmit` without data and without a response length. -/
def transmitCase1
    (port : Port K)
    (fuel : Nat)
    (cla ins p1 p2 : UInt8) : Code K Bool := do
  setCommand [cla, ins, p1, p2] 4
  transmit port fuel

/- `transmit` with a response length. -/
def transmitCase2
    (port : Port K)
    (fuel : Nat)
    (cla ins p1 p2 le : UInt8) : Code K Bool := do
  setCommand [cla, ins, p1, p2, le] 5
  transmit port fuel

/- `transmit` with data. -/
def transmitCase3
    (port : Port K)
    (fuel : Nat)
    (cla ins p1 p2 : UInt8)
    (data : Bytes) : Code K Bool := do
  setCommand
    ([cla, ins, p1, p2, .ofNat data.length] ++ data)
    (5 + data.length)
  transmit port fuel

/- `transmit` with data and a response length. -/
def transmitCase4
    (port : Port K)
    (fuel : Nat)
    (cla ins p1 p2 : UInt8)
    (data : Bytes)
    (le : UInt8) : Code K Bool := do
  setCommand
    ([cla, ins, p1, p2, .ofNat data.length] ++ data ++ [le])
    (5 + data.length + 1)
  transmit port fuel

end Se

end TrustOnboard

------------------------------------------------------------
-- Responses
------------------------------------------------------------

namespace TrustOnboard

namespace Se

variable {K : Type}

/- `getStatusWord`. -/
def SEInterface.getStatusWord (i : SEInterface) : Nat :=
  if 2 ≤ i.apduResponseLen then
    (i.apduResponse (i.apduResponseLen - 2)).toNat * 256 +
      (i.apduResponse (i.apduResponseLen - 1)).toNat
  else 0

/- `getResponseLength`. -/
def SEInterface.getResponseLength (i : SEInterface) : Nat :=
  if 2 < i.apduResponseLen then
    i.apduResponseLen - 2
  else 0

/- What `getResponse` copies. -/
def SEInterface.getResponse (i : SEInterface) : Bytes :=
  i.apduResponse.load 0 i.getResponseLength

end Se

end TrustOnboard

------------------------------------------------------------
-- Applets
------------------------------------------------------------

namespace TrustOnboard

namespace Se

variable {K : Type}

/- Send a command on the channel of a selected applet. -/
def onChannel
    (name : AppletName)
    (send : UInt8 → Code K Bool) : Code K Bool := do
  let applet ← Prog.read (fun s => s.applets name)
  if applet.isSelected then
    send applet.channel
  else
    pure false

/- `Applet::transmit` with a response length. -/
def Applet.transmitCase2
    (port : Port K)
    (fuel : Nat)
    (name : AppletName)
    (cla ins p1 p2 le : UInt8) : Code K Bool :=
  onChannel name (fun channel =>
    Se.transmitCase2 port fuel (cla ||| channel) ins p1 p2 le)

/- `Applet::transmit` with data. -/
def Applet.transmitCase3
    (port : Port K)
    (fuel : Nat)
    (name : AppletName)
    (cla ins p1 p2 : UInt8)
    (data : Bytes) : Code K Bool :=
  onChannel name (fun channel =>
    Se.transmitCase3 port fuel (cla ||| channel) ins p1 p2
      data)

/- `Applet::transmit` with data and a response length. -/
def Applet.transmitCase4
    (port : Port K)
    (fuel : Nat)
    (name : AppletName)
    (cla ins p1 p2 : UInt8)
    (data : Bytes)
    (le : UInt8) : Code K Bool :=
  onChannel name (fun channel =>
    Se.transmitCase4 port fuel (cla ||| channel) ins p1 p2
      data le)

/- `Applet::getStatusWord`. -/
def Applet.getStatusWord
    (name : AppletName) : Code K Nat :=
  Prog.read (fun s =>
    if (s.applets name).isSelected then
      s.iface.getStatusWord
    else 0)

/- `Applet::getResponse`: what is copied. -/
def Applet.getResponse
    (name : AppletName) : Code K Bytes :=
  Prog.read (fun s =>
    if (s.applets name).isSelected then
      s.iface.getResponse
    else [])

/- `Applet::getResponseLength`. -/
def Applet.getResponseLength
    (name : AppletName) : Code K Nat :=
  Prog.read (fun s =>
    if (s.applets name).isSelected then
      s.iface.getResponseLength
    else 0)

end Se

end TrustOnboard

------------------------------------------------------------
-- Memory
------------------------------------------------------------

namespace TrustOnboard

namespace Se

variable {K : Type}

/- A byte of the response array. -/
def examine (off : Nat) : Code K UInt8 :=
  Prog.step (fun s =>
    (s.iface.apduResponse off, s, [.examined off]))

/- `malloc` of the memory for a file. -/
def malloc (size : Nat) : Code K Unit :=
  Prog.emit (fun _ => .allocated size)

/- Write to the memory for a file. -/
def writeBlock
    (off : Nat)
    (bs : Bytes) : Code K Unit :=
  Prog.step (fun s =>
    ((), { s with block := s.block.store off bs },
      [.wrote .block off bs.length]))

/- Write to the local array `record`. -/
def writeRecord
    (off : Nat)
    (bs : Bytes) : Code K Unit :=
  Prog.step (fun s =>
    ((), { s with record := s.record.store off bs },
      [.wrote .record off bs.length]))

end Se

end TrustOnboard
