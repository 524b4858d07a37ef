import GpsTracker.Lib.CString

/-
  What the network answers to a client of one connection.

  A client looks up the server, opens a socket, connects,
  sends, and then takes turns of `select` and `recv`.

  Main declarations:
    * `Network`, `Turn`
    * `Network.responds`, `Network.Delivers`
    * `CString.store`
-/

------------------------------------------------------------
-- Results of the Calls
------------------------------------------------------------

/-
  One turn of a receiving loop: the result of `select`, and
  that of `recv` where the socket is readable. Zero bytes
  mean that the peer has closed.
-/
inductive Turn where
  | selectError
  | selectTimeout
  | notSet
  | recvError
  | received (data : List UInt8)
deriving DecidableEq

/- Which calls succeed, and the turns after them. -/
structure Network where
  dns : Bool
  socket : Bool
  connect : Bool
  send : Nat → Bool
  turn : Nat → Turn

/-
  A server that answers in these segments, and closes: then
  the socket stays readable and `recv` returns 0.
-/
def Network.responds
    (segments : List (List UInt8)) : Network :=
  { dns := true
    socket := true
    connect := true
    send := fun _ => true
    turn := fun k => .received (segments.getD k []) }

/- The bytes that a turn brings. -/
def Turn.data : Turn → List UInt8
| .received data => data
| _ => []

/- The bytes of the next turns, one after another. -/
def Network.arrived
    (network : Network)
    (turns : Nat) :
    Nat → List UInt8
| 0 => []
| n + 1 =>
    (network.turn turns).data ++
      network.arrived (turns + 1) n

/- A turn after which a client goes on waiting. -/
def Turn.Waits : Turn → Prop
| .notSet => True
| .received data => data ≠ []
| _ => False

/-
  The server is reached and sends these bytes, and maybe
  more, before any call fails or the connection ends.
-/
structure Network.Delivers
    (network : Network)
    (reply : List UInt8) : Prop where
  dns : network.dns = true
  socket : network.socket = true
  connect : network.connect = true
  send : network.send 0 = true
  arrives : ∃ n,
    reply <+: network.arrived 0 n ∧
      ∀ k, k < n → (network.turn k).Waits

------------------------------------------------------------
-- Writing to a Buffer
------------------------------------------------------------

namespace CString

/-
  `memset` of a buffer to zero from an offset on, and a copy
  of bytes to the offset.
-/
def store
    (buffer : List UInt8)
    (offset : Nat)
    (data : List UInt8) : List UInt8 :=
  buffer.take offset ++ data ++
    List.replicate (buffer.length - offset - data.length) 0

/- `snprintf` of a text to the start of a buffer. -/
def snprintf
    (buffer text : List UInt8) : List UInt8 :=
  let written := text.take (buffer.length - 1) ++ [0]
  written ++ buffer.drop written.length

theorem length_snprintf
    {buffer : List UInt8}
    (hRoom : 0 < buffer.length)
    (text : List UInt8) :
    (snprintf buffer text).length = buffer.length := by
  unfold snprintf
  simp only [List.length_append, List.length_take,
    List.length_drop, List.length_singleton]
  omega

/- The string in the buffer is the text, cut to its room. -/
theorem text_snprintf
    (buffer : List UInt8)
    {string : List UInt8}
    (hNul : 0 ∉ string) :
    text (snprintf buffer string) =
      string.take (buffer.length - 1) := by
  unfold snprintf
  simp only [List.append_assoc, List.singleton_append]
  exact text_append_nul
    (fun hMem => hNul (List.mem_of_mem_take hMem)) _

theorem length_store
    {buffer data : List UInt8}
    {offset : Nat}
    (hFits : offset + data.length ≤ buffer.length) :
    (store buffer offset data).length = buffer.length := by
  unfold store
  simp only [List.length_append, List.length_take,
    List.length_replicate]
  omega

theorem take_store
    {buffer data : List UInt8}
    {offset : Nat}
    (hFits : offset ≤ buffer.length) :
    (store buffer offset data).take (offset + data.length) =
      buffer.take offset ++ data := by
  unfold store
  apply List.take_left'
  rw [List.length_append, List.length_take]
  omega

end CString
