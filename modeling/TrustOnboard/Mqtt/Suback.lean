import TrustOnboard.Mqtt.Stored
import TrustOnboard.Mqtt.Correlation

/-
  The SUBACK of a subscription and its return codes.

  The decoder stores one return code more than the caller has
  asked for, and the caller looks at none of them.

  Key definitions include:
    * `IsSuback`
    * `returnCodes`
    * `storeGrantedQoSs`
    * `awaitSuback`
    * `Consumes`

  Key results include:
    * `subackStores_iff`
    * `internalSubscribe_eq`
    * `suback_handled_iff`
-/

------------------------------------------------------------
-- The Return Codes Of A Packet
------------------------------------------------------------

namespace TrustOnboard

namespace Mqtt

/-
  A SUBACK packet: its type, an identifier, and a length that
  four bytes can carry.
-/
structure IsSuback
    (header : UInt8)
    (body : Bytes) : Prop where
  type : headerType header = MessageType.suback.nibble
  identifier : 2 ≤ body.length
  short : body.length < lengthLimit

/- The return codes behind the identifier. -/
def returnCodes (body : Bytes) : Bytes :=
  body.drop 2

/- The return code for a subscription that was refused. -/
def subackFailure : UInt8 := 128

/- Exactly one return code, and not that of a refusal. -/
def OneGranted (body : Bytes) : Prop :=
  ∃ code, returnCodes body = [code] ∧ code ≠ subackFailure

/-
  The loop of `_aws_iot_mqtt_deserialize_suback` with the
  codes it stores, also when it fails.
-/
def storeGrantedQoSs
    (buf : Buffer)
    (maxExpectedQoSCount : Nat) :
    (remaining cur count : Nat) → Bytes × IoTError
  | 0, _, _ => ([], .success)
  | remaining + 1, cur, count =>
      if count > maxExpectedQoSCount then
        ([], .failure)
      else
        let rest :=
          storeGrantedQoSs buf maxExpectedQoSCount remaining
            (cur + 1) (count + 1)
        (buf cur :: rest.1, rest.2)

/- The codes `_aws_iot_mqtt_deserialize_suback` stores. -/
def subackStores
    (buf : Buffer)
    (maxExpectedQoSCount : Nat)
    (rxBufLen : Nat) : Bytes :=
  if 5 > rxBufLen then
    []
  else if headerType (buf 0) ≠ MessageType.suback.nibble then
    []
  else
    match decodeRemainingLengthFromBuffer buf 1 with
    | .error _ => []
    | .ok (decodedLen, readBytesLen) =>
        if decodedLen < 2 then
          []
        else
          (storeGrantedQoSs buf maxExpectedQoSCount
            (decodedLen - 2) (1 + readBytesLen + 2) 0).1

/- The loop delivers what it stores, unless it fails. -/
theorem readGrantedQoSs_eq
    (buf : Buffer)
    (max remaining cur count : Nat) :
    readGrantedQoSs buf max remaining cur count =
      match storeGrantedQoSs buf max remaining cur count with
      | (codes, .success) => .ok codes
      | (_, rc) => .error rc := by
  induction remaining generalizing cur count with
  | zero => rfl
  | succ remaining ih =>
      rw [readGrantedQoSs, storeGrantedQoSs]
      split
      case isTrue => rfl
      case isFalse hFew =>
        rw [ih]
        cases storeGrantedQoSs buf max remaining (cur + 1)
            (count + 1) with
        | mk codes rc => cases rc <;> rfl

/- The loop stores one code more than the maximum. -/
theorem storeGrantedQoSs_count
    (buf : Buffer)
    (max remaining cur count : Nat)
    (hCount : count ≤ max + 1) :
    (storeGrantedQoSs buf max remaining cur count).1.length =
        min remaining (max + 1 - count) ∧
      (storeGrantedQoSs buf max remaining cur count).2 =
        if remaining ≤ max + 1 - count then .success
        else .failure := by
  induction remaining generalizing cur count with
  | zero => simp [storeGrantedQoSs]
  | succ remaining ih =>
      rw [storeGrantedQoSs]
      split
      case isTrue hMany =>
        have hFull : max + 1 - count = 0 := by omega
        rw [hFull]
        simp
      case isFalse hFew =>
        rcases ih (cur + 1) (count + 1) (by omega) with
          ⟨hLength, hCode⟩
        constructor
        · rw [List.length_cons, hLength]
          omega
        · rw [hCode]
          congr 1
          rw [eq_iff_iff]
          omega

/- The length of a short packet is decoded from its field. -/
theorem IsSuback.decode
    {header : UInt8}
    {body : Bytes}
    {buf : Buffer}
    (hSuback : IsSuback header body)
    (hStored : Stored buf header body) :
    ∃ n,
      decodeRemainingLengthFromBuffer buf 1 =
        .ok (body.length, n) := by
  have hShort := hSuback.short
  have hLimit : lengthLimit < 2 ^ 32 := by decide
  have hMod : body.length % 2 ^ 32 = body.length :=
    Nat.mod_eq_of_lt (by omega)
  have hField :
      (lengthField body).length ≤
        maxNoOfRemainingLengthBytes := by
    apply length_writeLenToBuffer_le
    rw [UInt32.toNat_ofNat', hMod]
    exact hShort
  have hDecode := hStored.decode
  rw [if_pos hField, hMod] at hDecode
  exact ⟨_, hDecode⟩

/- What the decoder stores and returns for a SUBACK. -/
theorem deserializeSuback_stored
    {header : UInt8}
    {body : Bytes}
    {buf : Buffer}
    (hSuback : IsSuback header body)
    (hStored : Stored buf header body)
    (max : Nat)
    {size : Nat}
    (hSize : 5 ≤ size) :
    (subackStores buf max size).length =
        min (returnCodes body).length (max + 1) ∧
      ((returnCodes body).length ≤ max + 1 →
        ∃ r, deserializeSuback buf max size = .ok r) ∧
      (max + 1 < (returnCodes body).length →
        deserializeSuback buf max size =
          .error .failure) := by
  rcases hSuback.decode hStored with ⟨n, hDecode⟩
  have hLong := hSuback.identifier
  have hCodes :
      (returnCodes body).length = body.length - 2 := by
    simp [returnCodes]
  have hType :
      ¬ headerType (buf 0) ≠ MessageType.suback.nibble := by
    rw [hStored.header, hSuback.type]
    simp
  rcases storeGrantedQoSs_count buf max (body.length - 2)
      (1 + n + 2) 0 (by omega) with ⟨hCount, hCode⟩
  rw [Nat.sub_zero] at hCount hCode
  have hLarge : ¬ 5 > size := by omega
  have hPresent : ¬ body.length < 2 := by omega
  unfold subackStores deserializeSuback
  simp only [if_neg hLarge, if_neg hType, hDecode,
    if_neg hPresent, hCodes, readGrantedQoSs_eq]
  refine ⟨hCount, ?_, ?_⟩
  · intro hFew
    rw [if_pos hFew] at hCode
    cases hLoop :
        storeGrantedQoSs buf max (body.length - 2)
          (1 + n + 2) 0 with
    | mk codes rc =>
        rw [hLoop] at hCode
        cases hCode
        exact ⟨_, rfl⟩
  · intro hMany
    rw [if_neg (by omega)] at hCode
    cases hLoop :
        storeGrantedQoSs buf max (body.length - 2)
          (1 + n + 2) 0 with
    | mk codes rc =>
        rw [hLoop] at hCode
        cases hCode
        rfl

/-
  The decoder keeps to the maximum, and reports more codes,
  exactly for packets without more codes.
-/
theorem subackStores_iff
    {header : UInt8}
    {body : Bytes}
    {buf : Buffer}
    (hSuback : IsSuback header body)
    (hStored : Stored buf header body)
    (max : Nat)
    {size : Nat}
    (hSize : 5 ≤ size) :
    ((subackStores buf max size).length ≤ max ∧
        (max < (returnCodes body).length →
          deserializeSuback buf max size =
            .error .failure)) ↔
      (returnCodes body).length ≤ max := by
  rcases deserializeSuback_stored hSuback hStored max hSize
    with ⟨hCount, _, _⟩
  rw [hCount]
  constructor
  · rintro ⟨hFew, _⟩
    omega
  · intro hFew
    exact ⟨by omega, fun hMany => by omega⟩

end Mqtt

end TrustOnboard

------------------------------------------------------------
-- Waiting For The SUBACK
------------------------------------------------------------

namespace TrustOnboard

namespace Mqtt

variable {E : Type}
variable {port : Port E}
variable {callback : Callback E}

end Mqtt

end TrustOnboard

------------------------------------------------------------
-- Subscribing
------------------------------------------------------------

namespace TrustOnboard

namespace Mqtt

variable {E : Type}

/-
  A subscribe up to the arrival of its SUBACK: the slot for
  the subscription, or the code it ends with before.
-/
def awaitSuback
    (port : Port E)
    (fuel : Nat)
    (callback : Callback E)
    (topic : Option CString)
    (topicLen : UInt16)
    (qos : QoS) : Code E (Except IoTError Nat) := do
  startCommandTimer port
  let txPacketId ← getNextPacketId
  let encoded ←
    serialize (fun c =>
      serializeSubscribe c.writeBufSize 0 txPacketId
        [(topic, topicLen, qos)])
  match encoded with
  | .error rc => pure (.error rc)
  | .ok serializedLen => do
      let c ← getClient
      let index :=
        getFreeMessageHandlerIndex c.messageHandlers
      if c.messageHandlers.length ≤ index then
        pure (.error .mqttMaxSubscriptionsReachedError)
      else do
        let rc ← sendPacket port fuel serializedLen .command
        if rc ≠ .success then
          pure (.error rc)
        else do
          let rc ←
            waitForRead port fuel callback .suback .command
          if rc ≠ .success then
            pure (.error rc)
          else
            pure (.ok index)

/- A subscribe from the arrival of its SUBACK on. -/
def finishSubscribe
    (index : Nat)
    (entry : MessageHandlers) : Code E IoTError := do
  let c ← getClient
  match deserializeSuback c.readBuf 1 c.readBufSize with
  | .error rc => pure rc
  | .ok _ => do
      registerHandler index entry
      pure .success

/- A subscribe is cut at the arrival of its SUBACK. -/
theorem internalSubscribe_eq
    (port : Port E)
    (fuel : Nat)
    (callback : Callback E)
    (topic : Option CString)
    (topicLen : UInt16)
    (qos : QoS)
    (handler : Option HandlerId)
    (data : Nat) :
    internalSubscribe port fuel callback topic topicLen qos
        handler data =
      awaitSuback port fuel callback topic topicLen qos >>=
        fun r =>
          match r with
          | .error rc => pure rc
          | .ok index =>
              finishSubscribe index
                { topicName := topic
                  topicNameLen := topicLen
                  qos := qos
                  pApplicationHandler := handler
                  pApplicationHandlerData := data } := by
  unfold internalSubscribe awaitSuback
  rw [Prog.bind_assoc]
  refine bind_congr (fun _ => ?_)
  rw [Prog.bind_assoc]
  refine bind_congr (fun txPacketId => ?_)
  rw [Prog.bind_assoc]
  refine bind_congr (fun encoded => ?_)
  cases encoded with
  | error rc => rfl
  | ok serializedLen =>
      dsimp only
      rw [Prog.bind_assoc]
      refine bind_congr (fun c => ?_)
      split
      case isTrue => rfl
      case isFalse =>
        rw [Prog.bind_assoc]
        refine bind_congr (fun rc => ?_)
        split
        case isTrue => rfl
        case isFalse =>
          rw [Prog.bind_assoc]
          refine bind_congr (fun rc => ?_)
          split
          case isTrue => rfl
          case isFalse => rfl

/-
  A subscribe from `w` has consumed a SUBACK, which is stored
  in the world `w₂`.
-/
structure Consumes
    (port : Port E)
    (fuel : Nat)
    (callback : Callback E)
    (topic : Option CString)
    (topicLen : UInt16)
    (qos : QoS)
    (w w₂ : Run E)
    (index : Nat)
    (header : UInt8)
    (body : Bytes) : Prop where
  ready :
    w.st.client.clientState = .connectedIdle ∨
      w.st.client.clientState = .connectedWaitForCbReturn
  arrived :
    ∃ w₁,
      (setClientState port w.st.client.clientState
          .connectedSubscribeInProgress).run w =
        (some .success, w₁) ∧
      (awaitSuback port fuel callback topic topicLen
          qos).run w₁ = (some (.ok index), w₂)
  type : headerType header = MessageType.suback.nibble
  stored : Stored w₂.st.client.readBuf header body

/-
  The client can be put back into the state it had before
  the subscription was stored.
-/
def PutBack
    (port : Port E)
    (clientState : ClientState)
    (index : Nat)
    (entry : MessageHandlers)
    (w₂ : Run E) : Prop :=
  ((setClientState port .connectedSubscribeInProgress
      clientState).run
    ((registerHandler index entry).run w₂).2).1 =
      some .success

/- The entry a subscribe stores. -/
abbrev subscriptionEntry
    (topic : Option CString)
    (topicLen : UInt16)
    (qos : QoS)
    (handler : Option HandlerId)
    (data : Nat) : MessageHandlers where
  topicName := topic
  topicNameLen := topicLen
  qos := qos
  pApplicationHandler := handler
  pApplicationHandlerData := data

section

variable {port : Port E}
variable {fuel : Nat}
variable {callback : Callback E}
variable {topic : Option CString}
variable {topicLen : UInt16}
variable {qos : QoS}
variable {handler : Option HandlerId}
variable {data : Nat}
variable {w w₂ : Run E}
variable {index : Nat}
variable {header : UInt8}
variable {body : Bytes}

/- From the arrival of the SUBACK on, only it matters. -/
theorem subscribe_run
    (hTopic : topic.isSome = true)
    (hHandler : handler.isSome = true)
    (hConsumes :
      Consumes port fuel callback topic topicLen qos w w₂
        index header body) :
    (subscribe port fuel callback topic topicLen qos handler
        data).run w =
      (finishSubscribe index
          (subscriptionEntry topic topicLen qos handler
            data) >>= fun opRc =>
        setClientState port .connectedSubscribeInProgress
            w.st.client.clientState >>= fun rc =>
          if opRc = .success ∧ rc ≠ .success then
            pure rc
          else
            pure opRc).run w₂ := by
  rcases hConsumes.arrived with ⟨w₁, hEnter, hAwait⟩
  have hState :
      (getClientState : Code E ClientState).run w =
        (some w.st.client.clientState, w) := rfl
  have hArgs : ¬ (topic.isNone = true ∨
      handler.isNone = true) := by
    rw [Option.isNone_iff_eq_none,
      Option.isNone_iff_eq_none]
    rintro (rfl | rfl)
    · cases hTopic
    · cases hHandler
  have hConnected :
      ¬ ¬ isClientConnected w.st.client.clientState = true := by
    rcases hConsumes.ready with hIdle | hIdle
    · rw [hIdle]
      decide
    · rw [hIdle]
      decide
  have hIdle :
      ¬ (w.st.client.clientState ≠ .connectedIdle ∧
        w.st.client.clientState ≠
          .connectedWaitForCbReturn) := by
    rintro ⟨hLeft, hRight⟩
    rcases hConsumes.ready with hReady | hReady
    · exact hLeft hReady
    · exact hRight hReady
  unfold subscribe enterOperation withClientState
  rw [if_neg hArgs, Prog.run_bind_of_run hState,
    if_neg hConnected, Prog.run_bind_of_run hState,
    if_neg hIdle, Prog.run_bind_of_run hEnter,
    if_neg (by simp), internalSubscribe_eq, Prog.bind_assoc,
    Prog.run_bind_of_run hAwait]

/-
  A subscribe that has consumed a SUBACK returns success when
  the decoder takes the packet and the state is put back.
-/
theorem subscribe_success_iff
    (hTopic : topic.isSome = true)
    (hHandler : handler.isSome = true)
    (hConsumes :
      Consumes port fuel callback topic topicLen qos w w₂
        index header body) :
    ((subscribe port fuel callback topic topicLen qos handler
        data).run w).1 = some .success ↔
      (∃ r,
        deserializeSuback w₂.st.client.readBuf 1
          w₂.st.client.readBufSize = .ok r) ∧
        PutBack port w.st.client.clientState index
          (subscriptionEntry topic topicLen qos handler data)
          w₂ := by
  have hRead :
      (getClient : Code E Client).run w₂ =
        (some w₂.st.client, w₂) := rfl
  rw [subscribe_run hTopic hHandler hConsumes]
  unfold finishSubscribe PutBack
  rw [Prog.bind_assoc, Prog.run_bind_of_run hRead]
  cases hDecode :
      deserializeSuback w₂.st.client.readBuf 1
        w₂.st.client.readBufSize with
  | error rc =>
      have hFail : rc ≠ .success := by
        rcases deserializeSuback_error hDecode with
          rfl | rfl | rfl
        · decide
        · decide
        · decide
      refine iff_of_false ?_ (fun hNo => by
        rcases hNo.1 with ⟨r, hNo⟩
        cases hNo)
      dsimp only
      rw [Prog.pure_eq, Prog.ret_bind, Prog.run_bind]
      cases (setClientState port
          .connectedSubscribeInProgress
          w.st.client.clientState).run w₂ with
      | mk result w₃ =>
          cases result with
          | none => exact fun hNo => by cases hNo
          | some rc' =>
              dsimp only
              rw [if_neg (fun hBoth => hFail hBoth.1)]
              intro hYes
              exact hFail (Option.some.inj hYes)
  | ok r =>
      have hStore :
          (registerHandler index
            (subscriptionEntry topic topicLen qos handler
              data) : Code E Unit).run w₂ =
            (some (), ((registerHandler index
              (subscriptionEntry topic topicLen qos handler
                data)).run w₂).2) := rfl
      dsimp only
      rw [Prog.bind_assoc, Prog.run_bind_of_run hStore,
        Prog.pure_eq, Prog.ret_bind, Prog.run_bind]
      cases hBack :
          (setClientState port .connectedSubscribeInProgress
            w.st.client.clientState).run
              ((registerHandler index
                (subscriptionEntry topic topicLen qos handler
                  data)).run w₂).2 with
      | mk result w₃ =>
          cases result with
          | none =>
              refine iff_of_false (fun hNo => by cases hNo) ?_
              rintro ⟨_, hNo⟩
              cases hNo
          | some rc =>
              dsimp only
              by_cases hRc : rc = .success
              · subst hRc
                rw [if_neg (by simp)]
                exact iff_of_true rfl ⟨⟨r, rfl⟩, rfl⟩
              · rw [if_pos ⟨rfl, hRc⟩]
                constructor
                · intro hYes
                  exact absurd (Option.some.inj hYes) hRc
                · rintro ⟨_, hYes⟩
                  exact absurd (Option.some.inj hYes) hRc

/-
  A subscribe returns success only for a granted subscription
  exactly when the SUBACK grants it, has three or more return
  codes, or the call fails for another reason.
-/
theorem subscribe_granted_iff
    (hTopic : topic.isSome = true)
    (hHandler : handler.isSome = true)
    (hConsumes :
      Consumes port fuel callback topic topicLen qos w w₂
        index header body)
    (hLong : 2 ≤ body.length)
    (hShort : body.length < lengthLimit) :
    (((subscribe port fuel callback topic topicLen qos handler
        data).run w).1 = some .success → OneGranted body) ↔
      OneGranted body ∨
        2 < (returnCodes body).length ∨
          w₂.st.client.readBufSize < 5 ∨
            ¬ PutBack port w.st.client.clientState index
              (subscriptionEntry topic topicLen qos handler
                data) w₂ := by
  have hSuback : IsSuback header body :=
    ⟨hConsumes.type, hLong, hShort⟩
  rw [subscribe_success_iff hTopic hHandler hConsumes]
  by_cases hSize : 5 ≤ w₂.st.client.readBufSize
  · rcases deserializeSuback_stored hSuback hConsumes.stored 1
        hSize with ⟨_, hFew, hMany⟩
    by_cases hCodes : 2 < (returnCodes body).length
    · refine iff_of_true ?_ (Or.inr (Or.inl hCodes))
      rintro ⟨⟨r, hOk⟩, _⟩
      rw [hMany hCodes] at hOk
      cases hOk
    · have hOk := hFew (by omega)
      constructor
      · intro hGranted
        by_cases hBack :
            PutBack port w.st.client.clientState index
              (subscriptionEntry topic topicLen qos handler
                data) w₂
        · exact Or.inl (hGranted ⟨hOk, hBack⟩)
        · exact Or.inr (Or.inr (Or.inr hBack))
      · rintro (hGranted | hNo | hNo | hNo) hSuccess
        · exact hGranted
        · exact absurd hNo hCodes
        · omega
        · exact absurd hSuccess.2 hNo
  · refine iff_of_true ?_ (Or.inr (Or.inr (Or.inl ?_)))
    · rintro ⟨⟨r, hOk⟩, _⟩
      unfold deserializeSuback at hOk
      rw [if_pos (by omega)] at hOk
      cases hOk
    · omega

end

/-
  The handling of SUBACK packets.  The decoder keeps to the
  maximum for packets without more codes, and a subscribe
  reports what the SUBACK says when it grants exactly one
  subscription, or when the call fails.
-/
theorem suback_handled_iff :
    (∀ buf header body max size,
      IsSuback header body → Stored buf header body →
        5 ≤ size →
          ((subackStores buf max size).length ≤ max ∧
              (max < (returnCodes body).length →
                deserializeSuback buf max size =
                  .error .failure) ↔
            (returnCodes body).length ≤ max)) ∧
      ∀ (port : Port E) fuel callback topic topicLen qos
        handler data w w₂ index header body,
        topic.isSome = true → handler.isSome = true →
          Consumes port fuel callback topic topicLen qos w w₂
            index header body →
          IsSuback header body →
            ((((subscribe port fuel callback topic topicLen
                qos handler data).run w).1 = some .success →
                  OneGranted body) ↔
              OneGranted body ∨
                2 < (returnCodes body).length ∨
                  w₂.st.client.readBufSize < 5 ∨
                    ¬ PutBack port w.st.client.clientState
                      index
                      (subscriptionEntry topic topicLen qos
                        handler data) w₂) := by
  constructor
  · intro buf header body max size hSuback hStored hSize
    exact subackStores_iff hSuback hStored max hSize
  · intro port fuel callback topic topicLen qos handler data
      w w₂ index header body hTopic hHandler hConsumes
      hSuback
    exact
      subscribe_granted_iff hTopic hHandler hConsumes
        hSuback.identifier hSuback.short

/- The wire image of a SUBACK that refuses one topic. -/
def refusedPacket : Bytes := [144, 3, 0, 2, 128]

/- The world of a subscribe in its own state. -/
def subscribing (packet : Bytes) : Run Script :=
  ((setClientState quietPort .connectedIdle
    .connectedSubscribeInProgress).run
      (oneAck packet [false, false])).2

/- The world after the SUBACK has arrived. -/
def subackArrived (packet : Bytes) : Run Script :=
  ((awaitSuback quietPort 6
    (runCallback quietPort (fun _ => pure .success))
    (some (letter 65 upperA_ne)) 1 .qos0).run
      (subscribing packet)).2

theorem refusal_consumed :
    Consumes quietPort 6
      (runCallback quietPort (fun _ => pure .success))
      (some (letter 65 upperA_ne)) 1 .qos0
      (oneAck refusedPacket [false, false])
      (subackArrived refusedPacket) 0 144 [0, 2, 128] where
  ready := Or.inl rfl
  arrived :=
    ⟨subscribing refusedPacket,
      Prog.run_of_returns (by decide +kernel),
      Prog.run_of_returns (by rfl)⟩
  type := by decide
  stored :=
    ⟨by decide +kernel, by decide +kernel,
      by decide +kernel⟩

theorem suback_handled_iff_refused :
    (((subackStores (subackArrived refusedPacket).st.client.readBuf
          1 64).length ≤ 1 ∧
        (1 < (returnCodes [0, 2, 128]).length →
          deserializeSuback
              (subackArrived refusedPacket).st.client.readBuf
              1 64 = .error .failure)) ↔
      (returnCodes [0, 2, 128]).length ≤ 1) ∧
    ((((subscribe quietPort 6
        (runCallback quietPort (fun _ => pure .success))
        (some (letter 65 upperA_ne)) 1 .qos0 (some 0)
        0).run (oneAck refusedPacket [false, false])).1 =
          some .success →
        OneGranted [0, 2, 128]) ↔
      OneGranted [0, 2, 128] ∨
        2 < (returnCodes [0, 2, 128]).length ∨
          (subackArrived refusedPacket).st.client.readBufSize <
              5 ∨
            ¬ PutBack quietPort .connectedIdle 0
              (subscriptionEntry
                (some (letter 65 upperA_ne)) 1 .qos0
                (some 0) 0) (subackArrived refusedPacket)) :=
  ⟨(suback_handled_iff (E := Script)).1 _ 144 [0, 2, 128] 1
      64 ⟨by decide, by decide, by decide⟩
      refusal_consumed.stored (by decide),
    suback_handled_iff.2 quietPort 6 _ _ 1 .qos0 (some 0) 0 _
      _ 0 144 [0, 2, 128] rfl rfl refusal_consumed
      ⟨by decide, by decide, by decide⟩⟩

/-
  A SUBACK that refuses the subscription: the subscribe
  returns success and its handler is registered.
-/
theorem refused_subscription_succeeds :
    ¬ OneGranted [0, 2, 128] ∧
      Consumes quietPort 6
        (runCallback quietPort (fun _ => pure .success))
        (some (letter 65 upperA_ne)) 1 .qos0
        (oneAck refusedPacket [false, false])
        (subackArrived refusedPacket) 0 144 [0, 2, 128] ∧
      ∃ w',
        (subscribe quietPort 6
            (runCallback quietPort (fun _ => pure .success))
            (some (letter 65 upperA_ne)) 1 .qos0 (some 0)
            0).run (oneAck refusedPacket [false, false]) =
          (some .success, w') ∧
        w'.st.client.messageHandlers[0]? =
          some (letterSlot 65 upperA_ne) := by
  refine ⟨?_, refusal_consumed, _,
    Prog.run_of_returns (by decide +kernel),
    by decide +kernel⟩
  rintro ⟨code, hCodes, hCode⟩
  cases hCodes
  exact hCode rfl

end Mqtt

end TrustOnboard
