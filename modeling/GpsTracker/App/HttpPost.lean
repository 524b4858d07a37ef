import GpsTracker.Lib.Loop
import GpsTracker.Lib.Machine
import GpsTracker.Utils.Socket

/-
  `Http_Post` of `app.c`, and what it leaves behind.

  The receiving loop has no way out when the peer has
  closed: `recv` returns 0, and the `break` behind it leaves
  the switch only.

  Main declarations:
    * `App.postBody`, `App.HttpPosts`
    * `App.Clean`, `App.clean_of_httpPosts`
    * `App.Sent`, `App.HeadSent`
    * `App.ends`
    * `App.httpPost_clean_iff`
-/

open CString Machine

------------------------------------------------------------
-- The Function
------------------------------------------------------------

namespace App

/- The state at the top of the receiving loop. -/
structure PostState where
  turns : Nat
  recvLen : Nat
  retBuffer : List UInt8

/-
  What `Http_Post` leaves behind: its value and the buffer,
  and how often it has freed the request and closed the
  socket.
-/
structure PostResult where
  value : Int
  retBuffer : List UInt8
  frees : Nat
  closes : Nat
deriving DecidableEq

/- One turn of the receiving loop. -/
def postBody
    (network : Network)
    (s : PostState) : LoopStep PostState PostResult :=
  match network.turn s.turns with
  | .selectError => .done ⟨-1, s.retBuffer, 1, 1⟩
  | .selectTimeout => .done ⟨-1, s.retBuffer, 1, 1⟩
  | .notSet => .next { s with turns := s.turns + 1 }
  | .recvError => .done ⟨-1, store s.retBuffer 0 [], 1, 1⟩
  | .received data =>
      let retBuffer := store s.retBuffer 0 data
      let recvLen := u16 (s.recvLen + data.length)
      if data.length = 0 then
        -- the break leaves the switch, not the loop
        .next
          { turns := s.turns + 1
            recvLen := recvLen
            retBuffer := retBuffer }
      else if data.length < 1352 then
        .done ⟨recvLen, retBuffer, 1, 1⟩
      else
        .next
          { turns := s.turns + 1
            recvLen := recvLen
            retBuffer := retBuffer }

/- `Http_Post` up to its receiving loop. -/
def postStart
    (network : Network)
    (malloc : Bool)
    (retBuffer : List UInt8) :
    LoopStep PostState PostResult :=
  if ¬ network.dns then
    .done ⟨-1, retBuffer, 0, 0⟩
  else if ¬ malloc then
    .done ⟨-1, retBuffer, 0, 0⟩
  else if ¬ network.socket then
    .done ⟨-1, retBuffer, 1, 0⟩
  else if ¬ network.connect then
    .done ⟨-1, retBuffer, 1, 1⟩
  else if ¬ network.send 0 then
    .done ⟨-1, retBuffer, 1, 1⟩
  else if ¬ network.send 1 then
    .done ⟨-1, retBuffer, 1, 1⟩
  else
    .next
      { turns := 0
        recvLen := 0
        retBuffer := retBuffer }

/- `Http_Post` returns with this result. -/
def HttpPosts
    (network : Network)
    (malloc : Bool)
    (retBuffer : List UInt8)
    (result : PostResult) : Prop :=
  match postStart network malloc retBuffer with
  | .done left => left = result
  | .next s => Loop.Returns (postBody network) s result

end App

------------------------------------------------------------
-- What Is Left Behind
------------------------------------------------------------

namespace App

variable {network : Network}
variable {malloc : Bool}
variable {retBuffer : List UInt8}

/-
  The request, if it was allocated, was freed once, and the
  socket, if it was opened, was closed once.
-/
structure Clean
    (network : Network)
    (malloc : Bool)
    (result : PostResult) : Prop where
  frees : result.frees =
    if network.dns ∧ malloc then 1 else 0
  closes : result.closes =
    if network.dns ∧ malloc ∧ network.socket then 1 else 0

/- The calls before the receiving loop all succeed. -/
def Sent (network : Network) (malloc : Bool) : Prop :=
  network.dns ∧ malloc ∧ network.socket ∧ network.connect ∧
    network.send 0 ∧ network.send 1

/- So do those up to the `send` of the head. -/
def HeadSent (network : Network) (malloc : Bool) : Prop :=
  network.dns ∧ malloc ∧ network.socket ∧ network.connect ∧
    network.send 0

instance (network : Network) (malloc : Bool) :
    Decidable (HeadSent network malloc) :=
  inferInstanceAs (Decidable (_ ∧ _))

theorem postStart_of_sent
    (hSent : Sent network malloc) :
    postStart network malloc retBuffer =
      .next ⟨0, 0, retBuffer⟩ := by
  rcases hSent with ⟨hDns, hMalloc, hSocket, hConnect, hSends⟩
  simp [postStart, hDns, hMalloc, hSocket, hConnect, hSends]

theorem postStart_of_not_sent
    (hNot : ¬ Sent network malloc) :
    ∃ result, postStart network malloc retBuffer =
        .done result ∧
      Clean network malloc result := by
  unfold postStart
  split
  · exact ⟨_, rfl, by constructor <;> simp_all⟩
  · split
    · exact ⟨_, rfl, by constructor <;> simp_all⟩
    · split
      · exact ⟨_, rfl, by constructor <;> simp_all⟩
      · split
        · exact ⟨_, rfl, by constructor <;> simp_all⟩
        · split
          · exact ⟨_, rfl, by constructor <;> simp_all⟩
          · split
            · exact ⟨_, rfl, by constructor <;> simp_all⟩
            · exact absurd (by simp_all [Sent]) hNot

/- Wherever the loop is left, both were given back once. -/
theorem frees_closes_of_returns
    {s : PostState}
    {result : PostResult}
    (hReturns : Loop.Returns (postBody network) s result) :
    result.frees = 1 ∧ result.closes = 1 := by
  refine Loop.Returns.induction
    (motive := fun _ result =>
      result.frees = 1 ∧ result.closes = 1)
    ?_ ?_ hReturns
  case refine_2 =>
    intro s s' result _ hLater
    exact hLater
  intro s result hDone
  unfold postBody at hDone
  split at hDone
  · cases hDone
    exact ⟨rfl, rfl⟩
  · cases hDone
    exact ⟨rfl, rfl⟩
  · cases hDone
  · cases hDone
    exact ⟨rfl, rfl⟩
  · split at hDone
    · cases hDone
    · split at hDone
      · cases hDone
        exact ⟨rfl, rfl⟩
      · cases hDone

/- Every return is clean. -/
theorem clean_of_httpPosts
    {result : PostResult}
    (hPosts : HttpPosts network malloc retBuffer result) :
    Clean network malloc result := by
  unfold HttpPosts at hPosts
  by_cases hSent : Sent network malloc
  · rw [postStart_of_sent hSent] at hPosts
    have hOnce := frees_closes_of_returns hPosts
    rcases hSent with ⟨hDns, hMalloc, hSocket, _⟩
    constructor
    · rw [hOnce.1, if_pos ⟨hDns, hMalloc⟩]
    · rw [hOnce.2, if_pos ⟨hDns, hMalloc, hSocket⟩]
  · rcases @postStart_of_not_sent network malloc retBuffer hSent
      with ⟨left, hStart, hClean⟩
    rw [hStart] at hPosts
    rwa [← show left = result from hPosts]

end App

------------------------------------------------------------
-- Coming Back
------------------------------------------------------------

namespace App

variable {network : Network}
variable {malloc : Bool}
variable {retBuffer : List UInt8}

/-
  A turn that ends the loop: `select` fails or times out,
  `recv` fails, or it returns between 1 and 1351 bytes.
-/
def ends : Turn → Prop
  | .selectError => True
  | .selectTimeout => True
  | .notSet => False
  | .recvError => True
  | .received data => 0 < data.length ∧ data.length < 1352

theorem postBody_of_ends
    {s : PostState}
    (hEnds : ends (network.turn s.turns)) :
    ∃ result, postBody network s = .done result := by
  unfold postBody
  split
  · exact ⟨_, rfl⟩
  · exact ⟨_, rfl⟩
  · next hTurn =>
      rw [hTurn] at hEnds
      exact hEnds.elim
  · exact ⟨_, rfl⟩
  · next data hTurn =>
      rw [hTurn] at hEnds
      exact ⟨_, by
        rw [if_neg hEnds.1.ne', if_pos hEnds.2]⟩

theorem postBody_of_not_ends
    {s : PostState}
    (hNot : ¬ ends (network.turn s.turns)) :
    ∃ s', postBody network s = .next s' ∧
      s'.turns = s.turns + 1 := by
  unfold postBody
  split
  · next hTurn => exact absurd (by rw [hTurn]; trivial) hNot
  · next hTurn => exact absurd (by rw [hTurn]; trivial) hNot
  · exact ⟨_, rfl, rfl⟩
  · next hTurn => exact absurd (by rw [hTurn]; trivial) hNot
  · next data hTurn =>
      rw [hTurn] at hNot
      split
      · exact ⟨_, rfl, rfl⟩
      · next hData =>
          have hLong : ¬ data.length < 1352 := fun hShort =>
            hNot ⟨Nat.pos_of_ne_zero hData, hShort⟩
          exact ⟨_, by rw [if_neg hLong], rfl⟩

/- A turn that ends the loop is reached, or one before it. -/
theorem terminates_of_ends
    {distance : Nat}
    {s : PostState}
    (hEnds : ends (network.turn (s.turns + distance))) :
    Loop.Terminates (postBody network) s := by
  induction distance generalizing s with
  | zero =>
      rcases postBody_of_ends hEnds with ⟨result, hDone⟩
      exact ⟨result, Loop.returns_of_done hDone⟩
  | succ distance ih =>
      by_cases hNow : ends (network.turn s.turns)
      · rcases postBody_of_ends hNow with ⟨result, hDone⟩
        exact ⟨result, Loop.returns_of_done hDone⟩
      · rcases postBody_of_not_ends hNow with
          ⟨s', hNext, hTurns⟩
        rw [Loop.terminates_iff_of_next hNext]
        apply ih
        rwa [hTurns, Nat.add_right_comm, Nat.add_assoc]

theorem terminates_iff_ends
    {s : PostState}
    (hStart : s.turns = 0) :
    Loop.Terminates (postBody network) s ↔
      ∃ k, ends (network.turn k) := by
  constructor
  · intro hTerminates
    by_contra hNone
    rw [not_exists] at hNone
    have hStays (s : PostState) (_ : True) :
        ∃ s', postBody network s = .next s' ∧ True := by
      rcases postBody_of_not_ends (hNone s.turns) with
        ⟨s', hNext, _⟩
      exact ⟨s', hNext, trivial⟩
    exact Loop.not_terminates_of_invariant hStays trivial
      hTerminates
  · intro hEnds
    rcases hEnds with ⟨k, hEnds⟩
    exact terminates_of_ends (by rwa [hStart, Nat.zero_add])

/-
  `Http_Post` comes back, with the request and the socket
  given back once, exactly when a call before the loop
  fails or one of the turns ends the loop.
-/
theorem httpPost_clean_iff
    (network : Network)
    (malloc : Bool)
    (retBuffer : List UInt8) :
    (∃ result,
      HttpPosts network malloc retBuffer result ∧
        Clean network malloc result) ↔
      (Sent network malloc → ∃ k, ends (network.turn k)) := by
  have hClean :
      (∃ result, HttpPosts network malloc retBuffer result ∧
          Clean network malloc result) ↔
        ∃ result,
          HttpPosts network malloc retBuffer result :=
    exists_congr fun _ =>
      and_iff_left_of_imp clean_of_httpPosts
  rw [hClean]
  unfold HttpPosts
  by_cases hSent : Sent network malloc
  · rw [postStart_of_sent hSent]
    simp only [hSent, true_imp_iff]
    exact terminates_iff_ends rfl
  · rcases @postStart_of_not_sent network malloc retBuffer hSent
      with ⟨left, hStart, _⟩
    rw [hStart]
    exact iff_of_true ⟨left, rfl⟩ fun hYes =>
      absurd hYes hSent

/- The peer closes before it answers. -/
theorem closed_peer_hangs :
    ¬ ∃ result,
      HttpPosts (Network.responds []) true [] result ∧
        Clean (Network.responds []) true result := by
  intro hPosts
  rcases hPosts with ⟨result, hPosts, _⟩
  have hTurn (k : Nat) :
      (Network.responds []).turn k = .received [] := rfl
  have hTerminates : Loop.Terminates
      (postBody (Network.responds [])) ⟨0, 0, []⟩ :=
    ⟨result, hPosts⟩
  rcases (terminates_iff_ends rfl).mp hTerminates with
    ⟨k, hEnds⟩
  rw [hTurn] at hEnds
  exact absurd hEnds.1 (Nat.lt_irrefl 0)

end App
