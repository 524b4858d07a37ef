import GpsTracker.Gps.Delivery
import GpsTracker.Gps.Exchange
import GpsTracker.Gps.Version

/-
  A session: bytes arrive while no command is in flight, and
  requests are made and answered or time out, in any order.

  A session is compared with a conversation, which knows the
  bytes in the queue and nothing else of the state. Every
  request is given the verdict on its own answer, and of the
  bytes between a request and the end of its answer nothing
  reaches `GPS_Parse`. A request whose answer does not come
  fails at its time-out.

  `OS_Malloc` succeeds here, an answer that is handed over
  comes before the time-out, and the task that waits runs as
  soon as it is released.

  Main declarations:
    * `Gps.Answer`, `Gps.Answer.Serves`, `Gps.Heard`
    * `Gps.Session`, `Gps.Conversation`
    * `Gps.session_of_conversation`
-/

open CString Machine ListSearch

------------------------------------------------------------
-- Answers
------------------------------------------------------------

namespace Gps

/- A version is text that fits into a field. -/
structure Firmware where
  text : List UInt8
  plain : Minmea.IsText text

/- What the module sends back: an ack, or its version. -/
inductive Answer where
  | ack (reply : Reply)
  | version (firmware : Firmware)

def Answer.bytes : Answer → List UInt8
  | .ack reply => reply.bytes
  | .version firmware =>
      completed (nmeaTail .ackVersion [firmware.text])

/- The kind of an answer. -/
def Answer.kind : Answer → Cmd
  | .ack reply => reply.kind
  | .version _ => .ackVersion

/- The answer is the one that the request was made for. -/
def Answer.Serves (request : Request) : Answer → Prop
  | .ack reply =>
      request.cmd ≠ .getVersion ∧ reply.Confirms request
  | .version _ => request.cmd = .getVersion

instance
    (request : Request)
    (answer : Answer) :
    Decidable (answer.Serves request) :=
  match answer with
  | .ack _ => instDecidableAnd
  | .version _ => instDecidableEqCmd _ _

theorem Firmware.isText
    (firmware : Firmware) :
    ∀ arg ∈ [firmware.text], Minmea.IsText arg := by
  intro arg hArg
  rw [List.mem_singleton.mp hArg]
  exact firmware.plain

theorem Answer.headed
    (answer : Answer)
    (behind : List UInt8) :
    Headed (answer.bytes ++ behind) := by
  cases answer with
  | ack reply => exact reply.headed behind
  | version firmware => exact Or.inl ⟨_, rfl⟩

theorem Answer.parityCorrect
    (answer : Answer)
    (behind : List UInt8) :
    ParityCorrect (answer.bytes ++ behind) := by
  cases answer with
  | ack reply => exact reply.parityCorrect behind
  | version firmware =>
      exact parityCorrect_completed firmware.isText _ _

theorem Answer.ackNumber
    (answer : Answer)
    (behind : List UInt8) :
    Gps.ackNumber (answer.bytes ++ behind) =
      answer.kind.code := by
  cases answer with
  | ack reply => exact reply.ackNumber behind
  | version firmware => exact ackNumber_completed _ _ _

theorem Answer.ended
    (answer : Answer) :
    Ended answer.bytes := by
  cases answer with
  | ack reply => exact reply.ended
  | version firmware =>
      exact ended_completed firmware.isText .ackVersion

theorem Answer.kind_valid
    (answer : Answer) :
    answer.kind ∈ validCmds := by
  cases answer with
  | ack reply =>
      cases reply <;> simp [Answer.kind, Reply.kind, validCmds]
  | version firmware => simp [Answer.kind, validCmds]

/- The task that waited is told the kind of the answer. -/
theorem Answer.waitedAck
    (answer : Answer)
    (behind : List UInt8) :
    Gps.waitedAck (answer.bytes ++ behind) =
      some (answer.kind, some (answer.bytes ++ behind)) := by
  rcases waitedAck_of_parity (answer.headed behind)
      (answer.parityCorrect behind) with
    ⟨ackCmd, hWaited, hCmd⟩
  rw [hWaited, (hCmd answer.kind answer.kind_valid).mpr
    (answer.ackNumber behind)]

end Gps

------------------------------------------------------------
-- Returns
------------------------------------------------------------

namespace Gps

/-
  What a function of the library gives its caller. Only
  `GPS_GetVersion` writes to a buffer of the caller.
-/
structure Returned where
  value : Bool
  version : List UInt8
deriving DecidableEq

/- A function from its wake-up to its return. -/
def Request.finish
    (request : Request)
    (version str gpsAckMsg : List UInt8) : Option Returned :=
  if request.cmd = .getVersion then
    (getVersion version gpsAckMsg).map fun result =>
      { value := result.value
        version := result.version }
  else
    (sendWaiteNormalAck request.cmd str gpsAckMsg).map
      fun value =>
        { value := value
          version := version }

/-
  A function behind a time-out: `GPS_SendCMDWaitAck` has
  returned `GPS_CMD_FAIL` and stored no ack.
-/
def Request.timeOut
    (request : Request)
    (version : List UInt8) : Option Returned :=
  if request.cmd = .getVersion then
    (versionOf version .fail none).map fun result =>
      { value := result.value
        version := result.version }
  else
    some { value := false, version := version }

/- What the answer is worth to the caller. -/
def Answer.returned
    (request : Request)
    (version : List UInt8)
    (answer : Answer) : Returned :=
  { value := decide (answer.Serves request)
    version :=
      match answer with
      | .ack _ => version
      | .version firmware =>
          if request.cmd = .getVersion then
            storeVersion version (byte ',' :: firmware.text)
          else
            version }

/-
  What a caller hears: the answer that was handed over, if
  there was one before the time-out.
-/
structure Heard where
  request : Request
  version : List UInt8
  answer : Option Answer

def Heard.returned (heard : Heard) : Returned :=
  match heard.answer with
  | some answer => answer.returned heard.request heard.version
  | none => { value := false, version := heard.version }

theorem Request.timeOut_eq
    (request : Request)
    (version : List UInt8) :
    request.timeOut version =
      some { value := false, version := version } := by
  unfold Request.timeOut
  split <;> rfl

/- The version stands in its answer as a field. -/
theorem versionField_answer
    (firmware : Firmware)
    (behind : List UInt8) :
    VersionField ((Answer.version firmware).bytes ++ behind)
      firmware.text := by
  refine ⟨ascii "$PGKC463", parityTail (Xor.checksum
    (nmeaTail .ackVersion [firmware.text])) ++ behind, ?_,
    by decide, by decide, ?_, ?_⟩
  · have hCode : Decimal.padded 3 Cmd.ackVersion.code =
        ascii "463" := by
      decide
    simp [Answer.bytes, completed, nmeaTail, Minmea.separated,
      hCode, ascii]
  · exact fun hMem =>
      absurd (firmware.plain _ hMem) (by decide)
  · exact fun hMem =>
      absurd (firmware.plain _ hMem) (by decide)

/- Only the answer it was made for serves a request. -/
theorem Request.finish_answer
    (request : Request)
    (answer : Answer)
    (version rest behind : List UInt8) :
    request.finish version (request.sent ++ rest)
        (answer.bytes ++ behind) =
      some (answer.returned request version) := by
  unfold Request.finish
  split
  · next hVersion =>
      unfold getVersion
      rw [answer.waitedAck, Option.bind_eq_bind,
        Option.bind_some]
      cases answer with
      | ack reply =>
          have hKind : (Answer.ack reply).kind ≠
              .ackVersion := by
            cases reply <;> simp [Answer.kind, Reply.kind]
          simp only [versionOf, if_pos hKind]
          simp [Answer.returned, Answer.Serves, hVersion,
            versionExit]
      | version firmware =>
          have hField :=
            versionField_answer firmware behind
          show (versionOf version .ackVersion _).map _ = _
          rw [versionOf_of_field hField]
          simp [Answer.returned, Answer.Serves, hVersion,
            versionExit]
  · next hOther =>
      cases answer with
      | ack reply =>
          show (sendWaiteNormalAck request.cmd _
            (reply.bytes ++ behind)).map _ = _
          rw [sendWaiteNormalAck_reply]
          simp [Answer.returned, Answer.Serves, hOther]
      | version firmware =>
          have hFalse : sendWaiteNormalAck request.cmd
              (request.sent ++ rest)
              ((Answer.version firmware).bytes ++ behind) =
                some false := by
            unfold sendWaiteNormalAck
            rw [Answer.waitedAck]
            rfl
          rw [hFalse]
          simp [Answer.returned, Answer.Serves, hOther]

end Gps

------------------------------------------------------------
-- Sessions
------------------------------------------------------------

namespace Gps

/-
  The memory around a call: the stack of the command, the
  buffer for a version, and what follows the ack in the heap.
-/
structure CallMemory where
  temp : List UInt8
  version : List UInt8
  behind : List UInt8

/-
  What happens in a session: bytes arrive with no command in
  flight, or a function of the library is called, and these
  chunks arrive until its ack is handed over or until its
  time-out.
-/
inductive SessionEvent where
  | received (data : List UInt8)
  | request
      (request : Request)
      (memory : CallMemory)
      (chunks : List (List UInt8))
  | timedOut
      (request : Request)
      (memory : CallMemory)
      (chunks : List (List UInt8))

/-
  The state behind a function of the library: the semaphore
  is deleted and its variable null, and the ack is freed.
-/
def State.finished (s : State) : State :=
  { s with
    semCmdSending := false
    gpsAckMsg := none }

/-
  A session, with the frames handed to `GPS_Parse` and the
  values returned, both oldest first.
-/
inductive Session :
    State → List SessionEvent → List (List UInt8) →
      List Returned → State → Prop where
  | nil
      {s : State} :
      Session s [] [] [] s
  | received
      {s last : State}
      {data : List UInt8}
      {result : UpdateState}
      {events : List SessionEvent}
      {parsed : List (List UInt8)}
      {returned : List Returned}
      (hIdle : s.semCmdSending = false)
      (hUpdates : Updates false s data result)
      (hLater : Session result.gps events parsed returned
        last) :
      Session s (.received data :: events)
        (result.parsed ++ parsed) returned last
  | request
      {s acked last : State}
      {request : Request}
      {memory : CallMemory}
      {chunks : List (List UInt8)}
      {sent : CmdSent}
      {ack : List UInt8}
      {value : Returned}
      {events : List SessionEvent}
      {parsed : List (List UInt8)}
      {returned : List Returned}
      (hSent : request.send memory.temp = some sent)
      (hAcked : awaitAck chunks (s.sending sent.cleared) =
        .acked ack acked)
      (hValue : request.finish memory.version sent.str
        (ack ++ memory.behind) = some value)
      (hLater : Session acked.finished events parsed returned
        last) :
      Session s (.request request memory chunks :: events)
        parsed (value :: returned) last
  | timedOut
      {s waited last : State}
      {request : Request}
      {memory : CallMemory}
      {chunks : List (List UInt8)}
      {sent : CmdSent}
      {value : Returned}
      {events : List SessionEvent}
      {parsed : List (List UInt8)}
      {returned : List Returned}
      (hSent : request.send memory.temp = some sent)
      (hWaits : awaitAck chunks (s.sending sent.cleared) =
        .waiting waited)
      (hValue : request.timeOut memory.version = some value)
      (hLater : Session waited.finished events parsed returned
        last) :
      Session s (.timedOut request memory chunks :: events)
        parsed (value :: returned) last

end Gps

------------------------------------------------------------
-- Conversations
------------------------------------------------------------

namespace Gps

/- The bytes of the queue that a request leaves there. -/
def Request.held
    (request : Request)
    (live : List UInt8) : List UInt8 :=
  if request.clears then [] else live

/-
  The chunks bring the answer whole, among other bytes; all
  but the last of them do not.
-/
structure Answered
    (held : List UInt8)
    (chunks : List (List UInt8))
    (noise answer after : List UInt8) : Prop where
  stream : held ++ chunks.flatten = noise ++ answer ++ after
  surrounds : Surrounds noise answer after
  room : (noise ++ answer ++ after).length <
    dataBufferMaxLength
  last : (held ++ chunks.dropLast.flatten).length <
    noise.length + answer.length

/-
  The chunks have room and bring no whole ack, of whatever
  request.
-/
structure Unanswered
    (held : List UInt8)
    (chunks : List (List UInt8)) : Prop where
  room : (held ++ chunks.flatten).length < dataBufferMaxLength
  unended : Unended (held ++ chunks.flatten)

/-
  The bytes of the queue through a session in which every
  request is answered or times out. Between requests the
  frames are cut out; with an answered request all goes that
  is in front of the end of its answer, and with one that
  times out the bytes stay.
-/
inductive Conversation :
    List UInt8 → List SessionEvent → List (List UInt8) →
      List Heard → List UInt8 → Prop where
  | nil
      {live : List UInt8} :
      Conversation live [] [] [] live
  | received
      {live data rest : List UInt8}
      {events : List SessionEvent}
      {parsed : List (List UInt8)}
      {heard : List Heard}
      (hRoom : (live ++ data).length < dataBufferMaxLength)
      (hEnds : VtgTerminated (live ++ data))
      (hLater : Conversation
        (frameSegmenter.rest (live ++ data)) events parsed
        heard rest) :
      Conversation live (.received data :: events)
        (frameSegmenter.segments (live ++ data) ++ parsed)
        heard rest
  | request
      {live rest noise after : List UInt8}
      {request : Request}
      {memory : CallMemory}
      {chunks : List (List UInt8)}
      {answer : Answer}
      {events : List SessionEvent}
      {parsed : List (List UInt8)}
      {heard : List Heard}
      (hTemp : memory.temp.length = cmdBufferLength)
      (hAnswered : Answered (request.held live) chunks noise
        answer.bytes after)
      (hLater : Conversation after events parsed heard rest) :
      Conversation live
        (.request request memory chunks :: events) parsed
        ({ request := request
           version := memory.version
           answer := some answer } :: heard)
        rest
  | timedOut
      {live rest : List UInt8}
      {request : Request}
      {memory : CallMemory}
      {chunks : List (List UInt8)}
      {events : List SessionEvent}
      {parsed : List (List UInt8)}
      {heard : List Heard}
      (hTemp : memory.temp.length = cmdBufferLength)
      (hUnanswered : Unanswered (request.held live) chunks)
      (hLater : Conversation
        (request.held live ++ chunks.flatten) events parsed
        heard rest) :
      Conversation live
        (.timedOut request memory chunks :: events) parsed
        ({ request := request
           version := memory.version
           answer := none } :: heard)
        rest

end Gps

------------------------------------------------------------
-- One Request
------------------------------------------------------------

namespace Gps

/- What is in flight leaves the parser alone. -/
def Awaited.Keeps (parser : Parser) : Awaited → Prop
  | .waiting s => s.parser = parser
  | .acked _ s => s.parser = parser
  | .crashed => True

theorem parser_of_updateCommand
    {malloc : Bool}
    {s result : UpdateState}
    (hUpdate : updateCommand malloc s = some result) :
    result.gps.parser = s.gps.parser := by
  rw [updateCommand_eq_findAck] at hUpdate
  split at hUpdate
  · cases hUpdate
    rfl
  · unfold UpdateState.store at hUpdate
    split at hUpdate <;> cases hUpdate <;> rfl

theorem keeps_awaitCall
    (s : State)
    (chunk : List UInt8) :
    (awaitCall s chunk).Keeps s.parser := by
  unfold awaitCall
  split
  · trivial
  · next result hUpdate =>
      have hParser : result.gps.parser = s.parser :=
        parser_of_updateCommand hUpdate
      unfold UpdateState.awaited
      split
      · exact hParser
      · split <;> exact hParser

theorem keeps_awaitAck
    (chunks : List (List UInt8))
    (s : State) :
    (awaitAck chunks s).Keeps s.parser := by
  induction chunks generalizing s with
  | nil => exact (rfl : s.parser = s.parser)
  | cons chunk chunks ih =>
      have hCall := keeps_awaitCall s chunk
      rw [awaitAck]
      cases hFirst : awaitCall s chunk with
      | waiting next =>
          rw [hFirst] at hCall
          have hRest := ih next
          rw [show next.parser = s.parser from hCall] at hRest
          exact hRest
      | acked ack next =>
          rw [hFirst] at hCall
          exact hCall
      | crashed => trivial

/- An answered request is handed its answer and no more. -/
theorem awaitAck_of_answered
    {s : State}
    {chunks : List (List UInt8)}
    {noise after : List UInt8}
    {answer : Answer}
    (hAnswered : Answered s.live chunks noise answer.bytes
      after) :
    ∃ acked, awaitAck chunks s = .acked answer.bytes acked ∧
      acked.live = after ∧ acked.parser = s.parser := by
  have hStream := hAnswered.stream
  have hLast := hAnswered.last
  rcases List.eq_nil_or_concat chunks with
    rfl | ⟨chunks', last, rfl⟩
  · have hLength := congrArg List.length hStream
    rw [List.dropLast_nil] at hLast
    simp only [List.length_append] at hLength hLast
    omega
  · rw [List.concat_eq_append] at hStream hLast ⊢
    rw [List.dropLast_concat] at hLast
    rcases awaitAck_of_whole hAnswered.surrounds answer.ended
        hStream hAnswered.room hLast with
      ⟨acked, hAcked, hLive⟩
    have hKeeps := keeps_awaitAck (chunks' ++ [last]) s
    rw [hAcked] at hKeeps
    exact ⟨acked, hAcked, hLive, hKeeps⟩

/- One that is not answered keeps what has come. -/
theorem awaitAck_of_unanswered
    {s : State}
    {chunks : List (List UInt8)}
    (hUnanswered : Unanswered s.live chunks) :
    ∃ waited, awaitAck chunks s = .waiting waited ∧
      waited.live = s.live ++ chunks.flatten ∧
      waited.parser = s.parser := by
  rcases awaitAck_of_unended hUnanswered.room
      hUnanswered.unended with ⟨waited, hWaits, hLive⟩
  have hKeeps := keeps_awaitAck chunks s
  rw [hWaits] at hKeeps
  exact ⟨waited, hWaits, hLive, hKeeps⟩

theorem Request.live_sending
    (request : Request)
    (s : State) :
    (s.sending request.clears).live = request.held s.live :=
  Gps.live_sending s request.clears

end Gps

------------------------------------------------------------
-- A Whole Session
------------------------------------------------------------

namespace Gps

variable {events : List SessionEvent}
variable {parsed : List (List UInt8)}
variable {heard : List Heard}

/- Bytes that fit are taken, and the call returns. -/
theorem exists_delivered
    {s : State}
    (hIdle : s.semCmdSending = false)
    {data : List UInt8}
    (hRoom : (s.live ++ data).length < dataBufferMaxLength)
    (hEnds : VtgTerminated (s.live ++ data)) :
    ∃ result, Updates false s data result := by
  rcases @exists_delivers s hIdle [data]
      ⟨hRoom, hEnds, trivial⟩ with ⟨_, _, hRun, _⟩
  cases hRun with
  | cons _ hUpdates _ => exact ⟨_, hUpdates⟩

/- What any such call does. -/
theorem delivered_of_room
    {s : State}
    (hIdle : s.semCmdSending = false)
    {data : List UInt8}
    (hRoom : (s.live ++ data).length < dataBufferMaxLength)
    {result : UpdateState}
    (hUpdates : Updates false s data result) :
    Delivered s result.gps data result.parsed := by
  have hShort : data.length < dataBufferMaxLength := by
    rw [List.length_append] at hRoom
    omega
  have hTaken : (updateStart s data).ret = true := by
    apply (s.gpsNmeaBuffer.puts_accepted_iff data
      (u16 data.length)).mpr
    rw [u16_length_of_short hShort, ← List.length_append]
    exact hRoom
  have hRet : result.ret = true :=
    (extracted_of_updates hIdle hUpdates).1.ret.trans hTaken
  have hDelivered :=
    delivered_of_updates hIdle hUpdates hRet
  rwa [offered_of_short hShort] at hDelivered

/- There is a session for every conversation. -/
theorem exists_session
    {live rest : List UInt8}
    (hTalk : Conversation live events parsed heard rest)
    {s : State}
    (hIdle : s.semCmdSending = false)
    (hLive : s.live = live) :
    ∃ last, Session s events parsed
      (heard.map Heard.returned) last := by
  induction hTalk generalizing s with
  | nil => exact ⟨s, .nil⟩
  | received hRoom hEnds _ ih =>
      subst hLive
      rcases exists_delivered hIdle hRoom hEnds with
        ⟨result, hUpdates⟩
      have hDelivered :=
        delivered_of_room hIdle hRoom hUpdates
      have hStill := (extracted_of_updates hIdle
        hUpdates).1.semCmdSending.trans hIdle
      rcases ih hStill hDelivered.live with ⟨last, hLater⟩
      rw [← hDelivered.parsed]
      exact ⟨last, .received hIdle hUpdates hLater⟩
  | @request live rest noise after request memory chunks answer
      _ _ _ hTemp hAnswered _ ih =>
      subst hLive
      rcases request.send_eq hTemp with ⟨behind, hSent⟩
      rw [← request.live_sending] at hAnswered
      rcases awaitAck_of_answered hAnswered with
        ⟨acked, hAcked, hAfter, _⟩
      have hFinished : acked.finished.live = after := hAfter
      rcases ih rfl hFinished with ⟨last, hLater⟩
      exact ⟨last, .request hSent hAcked
        (request.finish_answer answer _ _ _) hLater⟩
  | @timedOut live rest request memory chunks _ _ _ hTemp
      hUnanswered _ ih =>
      subst hLive
      rcases request.send_eq hTemp with ⟨behind, hSent⟩
      rw [← request.live_sending] at hUnanswered
      rcases awaitAck_of_unanswered hUnanswered with
        ⟨waited, hWaits, hLive, _⟩
      rw [request.live_sending] at hLive
      have hFinished : waited.finished.live =
          request.held s.live ++ chunks.flatten := hLive
      rcases ih rfl hFinished with ⟨last, hLater⟩
      exact ⟨last, .timedOut hSent hWaits
        (request.timeOut_eq _) hLater⟩

/- And no other: the code follows the conversation. -/
theorem follows_of_session
    {live rest : List UInt8}
    (hTalk : Conversation live events parsed heard rest)
    {s last : State}
    (hLive : s.live = live)
    {parsed' : List (List UInt8)}
    {returned : List Returned}
    (hSession : Session s events parsed' returned last) :
    parsed' = parsed ∧ returned = heard.map Heard.returned ∧
      last.live = rest ∧
      last.parser = parsed.foldl parseFrame s.parser := by
  induction hTalk generalizing s parsed' returned with
  | nil =>
      cases hSession
      exact ⟨rfl, rfl, hLive, rfl⟩
  | received hRoom hEnds _ ih =>
      subst hLive
      cases hSession with
      | received hIdle hUpdates hLater =>
          have hDelivered :=
            delivered_of_room hIdle hRoom hUpdates
          rcases ih hDelivered.live hLater with
            ⟨hParsed, hReturned, hRest, hParser⟩
          rw [hParsed, hDelivered.parsed]
          refine ⟨rfl, hReturned, hRest, ?_⟩
          rw [hParser, hDelivered.parser, hDelivered.parsed,
            List.foldl_append]
  | @request live rest noise after request memory chunks answer
      _ _ _ hTemp hAnswered _ ih =>
      subst hLive
      rcases request.send_eq hTemp with ⟨behind, hSend⟩
      rw [← request.live_sending] at hAnswered
      rcases awaitAck_of_answered hAnswered with
        ⟨acked, hAwait, hAfter, hKept⟩
      cases hSession with
      | request hSent hAcked hValue hLater =>
          rw [hSend] at hSent
          cases hSent
          rw [hAwait] at hAcked
          cases hAcked
          rw [request.finish_answer answer] at hValue
          cases hValue
          have hFinished : acked.finished.live = after :=
            hAfter
          rcases ih hFinished hLater with
            ⟨hParsed, hReturned, hRest, hParser⟩
          refine ⟨hParsed, ?_, hRest, ?_⟩
          · rw [hReturned]
            rfl
          · have hSame : acked.finished.parser = s.parser :=
              hKept
            rw [hParser, hSame]
  | @timedOut live rest request memory chunks _ _ _ hTemp
      hUnanswered _ ih =>
      subst hLive
      rcases request.send_eq hTemp with ⟨behind, hSend⟩
      rw [← request.live_sending] at hUnanswered
      rcases awaitAck_of_unanswered hUnanswered with
        ⟨waited, hAwait, hLive, hKept⟩
      rw [request.live_sending] at hLive
      cases hSession with
      | timedOut hSent hWaits hValue hLater =>
          rw [hSend] at hSent
          cases hSent
          rw [hAwait] at hWaits
          cases hWaits
          rw [request.timeOut_eq] at hValue
          cases hValue
          have hFinished : waited.finished.live =
              request.held s.live ++ chunks.flatten := hLive
          rcases ih hFinished hLater with
            ⟨hParsed, hReturned, hRest, hParser⟩
          refine ⟨hParsed, ?_, hRest, ?_⟩
          · rw [hReturned]
            rfl
          · have hSame : waited.finished.parser = s.parser :=
              hKept
            rw [hParser, hSame]

/- A stack, a buffer for a version, and a heap. -/
def callMemory : CallMemory :=
  { temp := List.replicate cmdBufferLength 0xcd
    version := List.replicate 8 0
    behind := [] }

/- The version in the comment of `GPS_GetVersion`. -/
def goke : Firmware :=
  { text := ascii "GOKE9501_1.3_17101100"
    plain := by
      unfold Minmea.IsText
      decide +kernel }

theorem unanswered_lpMode :
    Unanswered [] [ascii "$PGKC001,1"] :=
  { room := by decide
    unended := by
      unfold Unended
      decide }

end Gps
