import GpsTracker.Lib.Loop
import GpsTracker.Lib.Machine
import GpsTracker.Utils.Socket
import Mathlib.Algebra.Order.Field.Rat
import Mathlib.Algebra.Order.Ring.Abs
import Mathlib.Tactic.Linarith
import Mathlib.Tactic.Ring

/-
  `NTP_Update` of `libs/utils/src/ntp.c`.

  The reply is read into the packet that was sent; its time
  stamps are `uint32_t`. Half of their difference from the
  local clock is added to the local clock, but the sum is
  halved before its sign is read, so a clock that is ahead
  of the server is set half of all seconds too late.

  Main declarations:
    * `Ntp.updateBody`, `Ntp.NtpUpdates`
    * `Ntp.offset`, `Ntp.WithinOneSecond`
    * `Ntp.withinOneSecond_iff`
    * `Ntp.ntpUpdates_iff`
    * `Ntp.storesWithinOneSecond_iff`
-/

open Machine

------------------------------------------------------------
-- Packets
------------------------------------------------------------

namespace Ntp

/- `NTP_TIMESTAMP_70_YEARS` -/
def timestamp70Years : Nat := 2208988800

/- `TIME_2000_1970_S` -/
def time2000To1970 : Nat := 946684800

/- A `uint32_t` in network byte order. -/
def networkBytes (n : Nat) : List UInt8 :=
  [UInt8.ofNat (n / 2 ^ 24), UInt8.ofNat (n / 2 ^ 16),
    UInt8.ofNat (n / 2 ^ 8), UInt8.ofNat n]

/- `ntohl` of the field at an offset of the packet. -/
def ntohl
    (packet : List UInt8)
    (place : Nat) : Nat :=
  (packet.getD place 0).toNat * 2 ^ 24 +
    (packet.getD (place + 1) 0).toNat * 2 ^ 16 +
    (packet.getD (place + 2) 0).toNat * 2 ^ 8 +
    (packet.getD (place + 3) 0).toNat

def origTm (packet : List UInt8) : Nat :=
  ntohl packet 24

def rxTm (packet : List UInt8) : Nat :=
  ntohl packet 32

def txTm (packet : List UInt8) : Nat :=
  ntohl packet 40

/- `sizeof(ntp_packet)` -/
def packetSize : Nat := 48

/- The request, sent at this time of the local clock. -/
def request (sent : Int) : List UInt8 :=
  [0x23] ++ List.replicate 39 0 ++
    networkBytes (u32 (sent + timestamp70Years)) ++
    List.replicate 4 0

theorem length_request
    (sent : Int) :
    (request sent).length = packetSize := by
  simp [request, networkBytes, packetSize]

end Ntp

------------------------------------------------------------
-- The Function
------------------------------------------------------------

namespace Ntp

/-
  The device: `time(NULL)` when the request is sent and when
  the reply has arrived, and whether `TIME_SetSystemTime`
  takes a time stamp.
-/
structure Clock where
  sent : Int
  now : Int
  setSystemTime : Nat → Bool

/-
  What `NTP_Update` leaves behind: its value, the time in
  `*timeNow`, the stamp the clock was set to, and how often
  it has closed the socket.
-/
structure NtpResult where
  value : Int
  timeNow : Option Int
  rtc : Option Nat
  closes : Nat
deriving DecidableEq

/- The state at the top of the receiving loop. -/
structure NtpState where
  turns : Nat
  recvLen : Nat
  packet : List UInt8

/- A return before `*timeNow` is written. -/
def failed
    (value : Int)
    (closes : Nat) : NtpResult :=
  { value := value
    timeNow := none
    rtc := none
    closes := closes }

/- The local clock in seconds since 1900. -/
def t4 (now : Int) : Nat :=
  u32 (now + timestamp70Years)

/- The difference of the clocks, halved as a `uint32_t`. -/
def delta
    (packet : List UInt8)
    (now : Int) : Int :=
  let sum :=
    u32 (u32 (rxTm packet - origTm packet) +
      u32 (txTm packet - t4 now))
  i32 (sum / 2 : Nat)

/- `*timeNow`, from the reply and the local clock. -/
def timeNow
    (packet : List UInt8)
    (now : Int) : Int :=
  i32 (u32 (t4 now + delta packet now - timestamp70Years))

/- The end of `NTP_Update`, behind its receiving loop. -/
def updated
    (clock : Clock)
    (isSetRTC : Bool)
    (packet : List UInt8) : NtpResult :=
  let timeNow := timeNow packet clock.now
  let stamp := u32 (timeNow - time2000To1970)
  { value :=
      if isSetRTC && !clock.setSystemTime stamp then -8 else 0
    timeNow := some timeNow
    rtc := if isSetRTC then some stamp else none
    closes := 1 }

/- One turn of the receiving loop. -/
def updateBody
    (network : Network)
    (clock : Clock)
    (isSetRTC : Bool)
    (s : NtpState) : LoopStep NtpState NtpResult :=
  match network.turn s.turns with
  | .selectError => .done (failed (-4) 1)
  | .selectTimeout => .done (failed (-5) 1)
  | .notSet => .next { s with turns := s.turns + 1 }
  | .recvError => .done (failed (-6) 1)
  | .received data =>
      -- `read` takes no more than is missing
      let data := data.take (packetSize - s.recvLen)
      let packet := s.packet.take s.recvLen ++ data ++
        s.packet.drop (s.recvLen + data.length)
      let recvLen := u16 (s.recvLen + data.length)
      if data.length = 0 then
        .done (failed (-7) 1)
      else if recvLen = packetSize then
        .done (updated clock isSetRTC packet)
      else
        .next
          { turns := s.turns + 1
            recvLen := recvLen
            packet := packet }

/- `NTP_Update` up to its receiving loop. -/
def updateStart
    (network : Network)
    (clock : Clock) : LoopStep NtpState NtpResult :=
  if ¬ network.socket then
    .done (failed (-1) 0)
  else if ¬ network.dns then
    .done (failed (-11) 0)
  else if ¬ network.connect then
    .done (failed (-2) 1)
  else if ¬ network.send 0 then
    .done (failed (-3) 1)
  else
    .next
      { turns := 0
        recvLen := 0
        packet := request clock.sent }

/- `NTP_Update` returns. -/
def NtpUpdates
    (network : Network)
    (clock : Clock)
    (isSetRTC : Bool)
    (result : NtpResult) : Prop :=
  match updateStart network clock with
  | .done failed => failed = result
  | .next s =>
      Loop.Returns (updateBody network clock isSetRTC) s
        result

end Ntp

------------------------------------------------------------
-- Clock Arithmetic
------------------------------------------------------------

namespace Ntp

/- Twice the time by which the local clock is behind. -/
def offset
    (packet : List UInt8)
    (now : Int) : Int :=
  (rxTm packet - origTm packet : Int) +
    (txTm packet - t4 now : Int)

/- The time that the reply stands for, since 1970. -/
def exactTime
    (packet : List UInt8)
    (now : Int) : Rat :=
  t4 now + (offset packet now : Rat) / 2 - timestamp70Years

/- Two times no more than a second apart, modulo 2^32. -/
def WithinOneSecond
    (stored : Int)
    (time : Rat) : Prop :=
  ∃ turns : Int,
    |(stored : Rat) - time - turns * 2 ^ 32| ≤ 1

variable {packet : List UInt8}
variable {now : Int}

/-
  Half of a `uint32_t` is not negative: the wrapped sum of a
  negative offset is halved with its 2^32.
-/
theorem delta_eq
    (hOffset : |offset packet now| < 2 ^ 31) :
    delta packet now =
      if 0 ≤ offset packet now then
        offset packet now / 2
      else
        offset packet now / 2 + 2 ^ 31 := by
  have hBounds := abs_lt.mp hOffset
  have hSum :
      ((u32 (u32 (rxTm packet - origTm packet) +
          u32 (txTm packet - t4 now)) : Nat) : Int) =
        offset packet now % 2 ^ 32 := by
    have hRx := natCast_wrap 32 (rxTm packet - origTm packet)
    have hTx := natCast_wrap 32 (txTm packet - t4 now)
    rw [natCast_wrap 32, hRx, hTx, ← Int.add_emod, offset]
  unfold delta
  rw [i32_of_bounds (by omega) (by omega)]
  push_cast
  rw [hSum]
  split
  · omega
  · omega

/- The time stored, up to a multiple of 2^32. -/
theorem exists_timeNow_eq
    (packet : List UInt8)
    (now : Int) :
    ∃ turns : Int,
      timeNow packet now =
        t4 now + delta packet now - timestamp70Years +
          turns * 2 ^ 32 := by
  unfold timeNow
  rw [i32_u32]
  exact exists_i32_eq _

/- Doubled, the comparison is one of integers. -/
theorem withinOneSecond_iff_int
    (stored : Int) :
    WithinOneSecond stored (exactTime packet now) ↔
      ∃ turns : Int,
        |2 * stored -
          (2 * (t4 now - timestamp70Years) +
            offset packet now) - turns * 2 ^ 33| ≤ 2 := by
  apply exists_congr
  intro turns
  generalize hTwice :
    2 * stored - (2 * (t4 now - timestamp70Years) +
      offset packet now) - turns * 2 ^ 33 = twice
  have hCast : (twice : Rat) =
      2 * ((stored : Rat) - exactTime packet now -
        turns * 2 ^ 32) := by
    rw [← hTwice, exactTime]
    push_cast
    ring
  have hLe : ((|twice| : Int) : Rat) ≤ ((2 : Int) : Rat) ↔
      |twice| ≤ 2 := Int.cast_le
  have hTwo : |(2 : Rat)| = 2 := abs_of_pos (by decide)
  rw [← hLe, Int.cast_abs, hCast, abs_mul, hTwo]
  push_cast
  constructor
  · intro hClose
    linarith
  · intro hClose
    linarith

/-
  The time stored is right exactly when the local clock is
  not ahead of the server.
-/
theorem withinOneSecond_iff
    (hOffset : |offset packet now| < 2 ^ 31) :
    WithinOneSecond (timeNow packet now)
        (exactTime packet now) ↔
      0 ≤ offset packet now := by
  rw [withinOneSecond_iff_int]
  rcases exists_timeNow_eq packet now with ⟨wraps, hTime⟩
  have hDelta := delta_eq hOffset
  rw [hTime]
  constructor
  · rintro ⟨turns, hClose⟩
    have hBounds := abs_le.mp hClose
    by_contra hAhead
    rw [if_neg hAhead] at hDelta
    -- half of 2^32 is no multiple of 2^32
    omega
  · intro hBehind
    rw [if_pos hBehind] at hDelta
    refine ⟨wraps, abs_le.mpr ?_⟩
    omega

end Ntp

------------------------------------------------------------
-- Replies
------------------------------------------------------------

namespace Ntp

variable {network : Network}

/- The bytes that complete the packet. -/
theorem updateBody_of_last
    (clock : Clock)
    (isSetRTC : Bool)
    {turns : Nat}
    {data before rest packet : List UInt8}
    (hHere : network.turn turns = .received data)
    (hTake : data.take rest.length = rest)
    (hRest : rest ≠ [])
    (hLength : before.length + rest.length = packetSize)
    (hPacket : packet.length = packetSize)
    (hBefore : packet.take before.length = before) :
    updateBody network clock isSetRTC
        { turns := turns
          recvLen := before.length
          packet := packet } =
      .done (updated clock isSetRTC (before ++ rest)) := by
  have hMissing : packetSize - before.length = rest.length := by
    omega
  have hPos := List.length_pos_of_ne_nil hRest
  have hRecv : u16 (before.length + rest.length) =
      packetSize := by
    rw [← Nat.cast_add, hLength]
    decide
  have hEnd : packet.drop (before.length + rest.length) =
      [] := by
    rw [hLength, ← hPacket, List.drop_length]
  simp only [updateBody, hHere, hMissing, hTake, hBefore,
    hRecv, hEnd, List.append_nil]
  rw [if_neg (by omega), if_pos trivial]

/- Bytes that leave the packet incomplete. -/
theorem updateBody_of_more
    (clock : Clock)
    (isSetRTC : Bool)
    {turns : Nat}
    {data before packet : List UInt8}
    (hHere : network.turn turns = .received data)
    (hData : data ≠ [])
    (hLess : before.length + data.length < packetSize)
    (hBefore : packet.take before.length = before) :
    updateBody network clock isSetRTC
        { turns := turns
          recvLen := before.length
          packet := packet } =
      .next
        { turns := turns + 1
          recvLen := (before ++ data).length
          packet := before ++ data ++
            packet.drop (before ++ data).length } := by
  have hTake :
      data.take (packetSize - before.length) = data :=
    List.take_of_length_le (by omega)
  have hPos := List.length_pos_of_ne_nil hData
  have hRecv : u16 (before.length + data.length) =
      before.length + data.length := by
    rw [← Nat.cast_add]
    exact wrap_natCast_of_lt
      (hLess.trans (by decide))
  simp only [updateBody, hHere, hTake, hBefore, hRecv,
    List.length_append]
  rw [if_neg (by omega), if_neg (by omega)]

/- The loop reads the reply over the packet it has sent. -/
theorem returns_updated
    (clock : Clock)
    (isSetRTC : Bool)
    {n turns : Nat}
    {before rest packet : List UInt8}
    (hWaits : ∀ k, k < n → (network.turn (turns + k)).Waits)
    (hRest : rest ≠ [])
    (hArrives : rest <+: network.arrived turns n)
    (hLength : before.length + rest.length = packetSize)
    (hPacket : packet.length = packetSize)
    (hBefore : packet.take before.length = before) :
    Loop.Returns (updateBody network clock isSetRTC)
      { turns := turns
        recvLen := before.length
        packet := packet }
      (updated clock isSetRTC (before ++ rest)) := by
  induction n generalizing turns before rest packet with
  | zero => exact absurd (List.prefix_nil.mp hArrives) hRest
  | succ n ih =>
      have hLater : ∀ k, k < n →
          (network.turn (turns + 1 + k)).Waits := by
        intro k hk
        have hTurn := hWaits (k + 1) (by omega)
        rwa [← Nat.add_assoc, Nat.add_right_comm] at hTurn
      have hTurn := hWaits 0 (Nat.succ_pos n)
      rw [Nat.add_zero] at hTurn
      rw [Network.arrived] at hArrives
      cases hHere : network.turn turns with
      | selectError => rw [hHere] at hTurn; cases hTurn
      | selectTimeout => rw [hHere] at hTurn; cases hTurn
      | recvError => rw [hHere] at hTurn; cases hTurn
      | notSet =>
          have hNext : updateBody network clock isSetRTC
              ⟨turns, before.length, packet⟩ =
              .next ⟨turns + 1, before.length, packet⟩ := by
            simp only [updateBody, hHere]
          rw [Loop.returns_iff_of_next hNext]
          rw [hHere] at hArrives
          exact ih hLater hRest hArrives hLength hPacket
            hBefore
      | received data =>
          rw [hHere] at hTurn hArrives
          by_cases hLast : rest.length ≤ data.length
          · have hTake : data.take rest.length = rest := by
              have hPrefix := List.prefix_iff_eq_take.mp
                hArrives
              rw [Turn.data, List.take_append_of_le_length
                hLast] at hPrefix
              exact hPrefix.symm
            exact Loop.returns_of_done
              (updateBody_of_last clock isSetRTC hHere hTake
                hRest hLength hPacket hBefore)
          · have hPrefix : data <+: rest :=
              List.prefix_of_prefix_length_le
                (List.prefix_append data _) hArrives
                (by omega)
            rcases hPrefix with ⟨later, rfl⟩
            rw [List.length_append] at hLength hLast
            rw [Loop.returns_iff_of_next
                (updateBody_of_more clock isSetRTC hHere hTurn
                  (by omega) hBefore),
              ← List.append_assoc]
            have hMore : later ≠ [] :=
              List.ne_nil_of_length_pos (by omega)
            refine ih hLater hMore
              ((List.prefix_append_right_inj data).mp hArrives)
              ?_ ?_ List.take_left
            · rw [List.length_append]
              omega
            · rw [List.length_append, List.length_drop,
                List.length_append]
              omega

/- `NTP_Update` takes the first 48 bytes for the reply. -/
theorem ntpUpdates_iff
    {reply : List UInt8}
    (hDelivers : network.Delivers reply)
    (hLength : reply.length = packetSize)
    (clock : Clock)
    (isSetRTC : Bool)
    {result : NtpResult} :
    NtpUpdates network clock isSetRTC result ↔
      updated clock isSetRTC reply = result := by
  rcases hDelivers.arrives with ⟨n, hArrives, hWaits⟩
  have hReply : reply ≠ [] := by
    rintro rfl
    cases hLength
  have hTurns : ∀ k, k < n →
      (network.turn (0 + k)).Waits := by
    intro k hk
    rw [Nat.zero_add]
    exact hWaits k hk
  have hReturns :=
    @returns_updated network clock isSetRTC n 0 [] reply
      (request clock.sent) hTurns hReply hArrives
      (by rw [hLength]; rfl) (length_request clock.sent) rfl
  have hStart : updateStart network clock =
      .next ⟨0, 0, request clock.sent⟩ := by
    simp [updateStart, hDelivers.dns, hDelivers.socket,
      hDelivers.connect, hDelivers.send]
  rw [NtpUpdates, hStart]
  constructor
  · intro hUpdates
    exact Loop.returns_unique hReturns hUpdates
  · rintro rfl
    exact hReturns

/-
  `NTP_Update` stores a time, within one second of the one
  that the reply stands for.
-/
def StoresWithinOneSecond
    (network : Network)
    (clock : Clock)
    (isSetRTC : Bool)
    (reply : List UInt8) : Prop :=
  ∃ result stored,
    NtpUpdates network clock isSetRTC result ∧
      result.timeNow = some stored ∧
      WithinOneSecond stored (exactTime reply clock.now)

theorem storesWithinOneSecond_iff_timeNow
    {reply : List UInt8}
    (hDelivers : network.Delivers reply)
    (hLength : reply.length = packetSize)
    (clock : Clock)
    (isSetRTC : Bool) :
    StoresWithinOneSecond network clock isSetRTC reply ↔
      WithinOneSecond (timeNow reply clock.now)
        (exactTime reply clock.now) := by
  constructor
  · rintro ⟨result, stored, hUpdates, hStored, hWithin⟩
    rw [ntpUpdates_iff hDelivers hLength] at hUpdates
    rw [← hUpdates] at hStored
    have hTime : timeNow reply clock.now = stored :=
      Option.some.inj hStored
    rw [hTime]
    exact hWithin
  · intro hWithin
    exact ⟨_, _,
      (ntpUpdates_iff hDelivers hLength clock isSetRTC).mpr
        rfl, rfl, hWithin⟩

/-
  The time stored for a reply is right exactly when the
  local clock is not ahead of the server.
-/
theorem storesWithinOneSecond_iff
    {reply : List UInt8}
    (hDelivers : network.Delivers reply)
    (hLength : reply.length = packetSize)
    (clock : Clock)
    (isSetRTC : Bool)
    (hOffset : |offset reply clock.now| < 2 ^ 31) :
    StoresWithinOneSecond network clock isSetRTC reply ↔
      0 ≤ offset reply clock.now := by
  rw [storesWithinOneSecond_iff_timeNow hDelivers hLength,
    withinOneSecond_iff hOffset]

/- A reply with these time stamps. -/
def serverReply (orig rx tx : Nat) : List UInt8 :=
  [0x24] ++ List.replicate 23 0 ++
    networkBytes orig ++ List.replicate 4 0 ++
    networkBytes rx ++ List.replicate 4 0 ++
    networkBytes tx ++ List.replicate 4 0

theorem delivers_responds
    {reply : List UInt8}
    (hReply : reply ≠ []) :
    (Network.responds [reply]).Delivers reply :=
  { dns := rfl
    socket := rfl
    connect := rfl
    send := rfl
    arrives := by
      refine ⟨1, List.prefix_append reply [], ?_⟩
      intro k hk
      obtain rfl : k = 0 := by omega
      exact hReply }

/- A clock at 2023-11-14 22:13:20 that cannot be set. -/
def fixedClock : Clock :=
  { sent := 1700000000
    now := 1700000000
    setSystemTime := fun _ => false }

/- The server is ten seconds ahead. -/
theorem storesWithinOneSecond_iff_server_ahead :
    StoresWithinOneSecond
        (Network.responds
          [serverReply 3908988800 3908988810 3908988810])
        fixedClock false
        (serverReply 3908988800 3908988810 3908988810) ↔
      0 ≤ offset
        (serverReply 3908988800 3908988810 3908988810)
        fixedClock.now :=
  storesWithinOneSecond_iff (delivers_responds (by decide))
    (by decide) fixedClock false (by decide)

/- The server is ten seconds behind. -/
theorem server_behind_not_within :
    ¬ ∀ (network : Network) (clock : Clock)
        (isSetRTC : Bool) (reply : List UInt8),
      network.Delivers reply →
        reply.length = packetSize →
        |offset reply clock.now| < 2 ^ 31 →
        StoresWithinOneSecond network clock isSetRTC
          reply := by
  intro hAll
  have hDelivers := @delivers_responds
    (serverReply 3908988800 3908988790 3908988790)
    (by decide)
  have hOffset : offset
      (serverReply 3908988800 3908988790 3908988790)
      fixedClock.now = -20 := by
    decide
  have hStores := hAll _ fixedClock false _ hDelivers
    (by decide) (by rw [hOffset]; decide)
  rw [storesWithinOneSecond_iff_timeNow hDelivers (by decide),
    withinOneSecond_iff (by rw [hOffset]; decide), hOffset]
    at hStores
  exact absurd hStores (by decide)

end Ntp
