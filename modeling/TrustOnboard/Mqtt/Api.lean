import TrustOnboard.Mqtt.Operations

/-
  Interface calls with re-entrant callbacks.

  `api` ties the knot left open by the operations: a message
  callback or a disconnect handler may itself make any number
  of interface calls.  The fuel bounds both the nesting depth
  and the rounds of every loop; statements about runs
  quantify over it, so every finite run is covered.

  Key definitions include:
    * `makeCall`
    * `runCallback`
    * `apiBody`
    * `api`
    * `TopCall`
    * `session`
-/

------------------------------------------------------------
-- Calls
------------------------------------------------------------

namespace TrustOnboard

namespace Mqtt

variable {E : Type}

/-
  One call of a callback.  The parameters it passes may be
  those of a message being handled.
-/
def makeCall
    (call : ApiCall → Code E IoTError)
    (c : ApiCall) : Code E Unit := do
  modifyMessages c.writes
  let _ ← call c
  pure ()

/- The calls a message callback makes, in order. -/
def runCallback
    (port : Port E)
    (call : ApiCall → Code E IoTError) : Callback E :=
  fun handler data msg => do
    let calls ← Prog.step (fun s =>
      let r := port.onMessage handler data msg s.env
      (r.1, { s with env := r.2 }, []))
    Prog.each (makeCall call) calls

/- The calls the disconnect handler makes, in order. -/
def runDisconnectHandler
    (port : Port E)
    (call : ApiCall → Code E IoTError)
    (handler : HandlerId)
    (data : Nat) : Code E Unit := do
  let calls ← Prog.step (fun s =>
    let r := port.onDisconnect handler data s.env
    (r.1, { s with env := r.2 }, []))
  Prog.each (makeCall call) calls

/-
  One interface call.  `inWait` performs the calls of
  callbacks that run while this call waits for an
  acknowledgement, `inYield` those of callbacks and handlers
  that run in a yield itself.
-/
def apiBody
    (port : Port E)
    (fuel : Nat)
    (inWait inYield : ApiCall → Code E IoTError) :
    ApiCall → Code E IoTError
  | .connect params =>
      connect port fuel (runCallback port inWait) params
  | .disconnect => disconnect port fuel
  | .attemptReconnect =>
      attemptReconnect port fuel (runCallback port inWait)
  | .publish topic topicLen params =>
      publish port fuel (runCallback port inWait) topic
        topicLen params
  | .subscribe topic topicLen qos handler data =>
      subscribe port fuel (runCallback port inWait) topic
        topicLen qos handler data
  | .unsubscribe filter filterLen =>
      unsubscribe port fuel (runCallback port inWait) filter
        filterLen
  | .resubscribe =>
      resubscribe port fuel (runCallback port inWait)
  | .yield timeoutMs =>
      yield port fuel (runCallback port inWait)
        (runCallback port inYield)
        (runDisconnectHandler port inYield) timeoutMs
  | .autoreconnectSetStatus status => do
      modifyClient (fun c =>
        { c with isAutoReconnectEnabled := status })
      pure .success
  | .setDisconnectHandler handler data =>
      if handler.isNone then
        pure .nullValueError
      else do
        modifyClient (fun c =>
          { c with
            disconnectHandler := handler
            disconnectHandlerData := data })
        pure .success

/- Record the end of a call with the table it leaves. -/
def logReturn
    (c : ApiCall)
    (body : Code E IoTError) : Code E IoTError := do
  let rc ← body
  Prog.emit (fun s => .ret c rc s.client.messageHandlers)
  pure rc

/-
  An interface call with everything its callbacks do.  The
  flag says whether an enclosing call is waiting for an
  acknowledgement.
-/
def api
    (port : Port E) :
    (fuel : Nat) → (waiting : Bool) → ApiCall →
      Code E IoTError
  | 0, _, _ => Prog.stop
  | fuel + 1, waiting, c => do
      record (.call waiting c)
      logReturn c
        (apiBody port fuel (api port fuel true)
          (api port fuel waiting) c)

/- The calls an application makes outside callbacks. -/
inductive TopCall where
  | init (params : Option InitParams)
  | api (c : ApiCall)

/- One call made outside any callback. -/
def topCall
    (port : Port E)
    (fuel : Nat) : TopCall → Code E Unit
  | .init params => init port params >>= fun _ => pure ()
  | .api c => api port fuel false c >>= fun _ => pure ()

/- A single-threaded run: calls made one after another. -/
def session
    (port : Port E)
    (fuel : Nat)
    (calls : List TopCall) : Code E Unit :=
  Prog.each (topCall port fuel) calls

end Mqtt

end TrustOnboard
