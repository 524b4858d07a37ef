import GpsTracker.Gps.Semaphore

/-
  Who frees the blocks that acks are handed over in.

  `gpsAckMsg` is one slot. The GPS task frees the block in
  it behind each command and clears it, and the main task
  writes a new block over whatever it holds. A block stays
  unfreed when a second ack is stored before the first is
  freed, or one is stored behind the free.

  Main declarations:
    * `Gps.Ledger`
    * `Gps.OwnedStep`, `Gps.AckOwned`
    * `Gps.AckSettled`, `Gps.ack_settled`
-/

open Transition CString

------------------------------------------------------------
-- The Heap
------------------------------------------------------------

namespace Gps

/-
  Every block has been freed once, but for one at most that
  is still owed a free.
-/
structure Ledger
    (owed : Option Nat)
    (heap : List Block) : Prop where
  valid : ∀ i, owed = some i → i < heap.length
  frees : ∀ i block, heap[i]? = some block →
    block.frees = if owed = some i then 0 else 1

theorem ledger_nil : Ledger none [] :=
  { valid := fun _ hOwed => by cases hOwed
    frees := fun _ _ hBlock => by simp at hBlock }

theorem Ledger.freed
    {heap : List Block}
    (hLedger : Ledger none heap) :
    ∀ block ∈ heap, block.frees = 1 := by
  intro block hMem
  rcases List.mem_iff_getElem?.mp hMem with ⟨i, hi⟩
  simpa using hLedger.frees i block hi

/- A new block is owed. -/
theorem Ledger.allocate
    {heap : List Block}
    (hLedger : Ledger none heap)
    (command : Nat)
    (ack : TakenAck) :
    Ledger (some heap.length)
      (heap ++
        [{ command := command, ack := ack, frees := 0 }]) := by
  constructor
  · intro i hi
    cases hi
    simp
  · intro i block hBlock
    rcases Nat.lt_or_ge i heap.length with hOld | hNew
    · rw [List.getElem?_append_left hOld] at hBlock
      have hFrees := hLedger.frees i block hBlock
      rw [if_neg (by simp)] at hFrees
      rw [hFrees, if_neg]
      intro hSame
      cases hSame
      exact absurd hOld (Nat.lt_irrefl _)
    · rw [List.getElem?_append_right hNew] at hBlock
      have hLast : i - heap.length = 0 := by
        by_contra hFar
        rw [List.getElem?_eq_none (by simp; omega)] at hBlock
        cases hBlock
      rw [hLast] at hBlock
      cases hBlock
      have hi : i = heap.length := by omega
      simp [hi]

/- The free settles it. -/
theorem Ledger.free
    {owed : Option Nat}
    {heap : List Block}
    (hLedger : Ledger owed heap) :
    Ledger none (freeBlock owed heap) := by
  constructor
  · intro i hi
    cases hi
  · intro i block hBlock
    rw [if_neg (by simp)]
    cases owed with
    | none => simpa using hLedger.frees i block hBlock
    | some j =>
        simp only [freeBlock, List.getElem?_modify] at hBlock
        rcases Option.map_eq_some_iff.mp hBlock with
          ⟨old, hOld, hEq⟩
        have hFrees := hLedger.frees i old hOld
        by_cases hSame : j = i
        · subst hSame
          rw [if_pos rfl] at hFrees
          rw [if_pos rfl] at hEq
          rw [← hEq]
          simp [hFrees]
        · rw [if_neg (by simpa using hSame)] at hFrees
          rw [if_neg hSame] at hEq
          rw [← hEq]
          exact hFrees

end Gps

------------------------------------------------------------
-- The Condition
------------------------------------------------------------

namespace Gps

/- The command in flight has still to free its ack. -/
def Sender.collects : Sender → Bool
  | .idle => false
  | .clearTimeOut => false
  | .createSemaphore => false
  | .nullAck => false
  | _ => true

/- An ack is about to be stored. -/
def MainTask.stores : MainTask → Bool
  | .storeAck _ => true
  | _ => false

/-
  The condition on a step: an ack is stored only while the
  slot is empty and a command will still free it, and no
  semaphore is created between an ack or a time-out and the
  release that announces it.
-/
def OwnedStep (s : CommandState) : CommandEvent → Prop
| .sender =>
    s.sender = .createSemaphore → s.main.releases = false
| .main malloc =>
    s.main.stores = true →
      s.gpsAckMsg = none ∧
        (malloc = true → s.sender.collects = true)
| _ => True

instance (s : CommandState) (event : CommandEvent) :
    Decidable (OwnedStep s event) :=
  match event with
  | .sender =>
      inferInstanceAs (Decidable
        (s.sender = .createSemaphore →
          s.main.releases = false))
  | .main malloc =>
      inferInstanceAs (Decidable
        (s.main.stores = true →
          s.gpsAckMsg = none ∧
            (malloc = true → s.sender.collects = true)))
  | .start _ => instDecidableTrue
  | .received _ => instDecidableTrue
  | .fires _ => instDecidableTrue

/- The block that has still to be freed. -/
def CommandState.owed (s : CommandState) : Option Nat :=
  if s.sender = .nullAck then none else s.gpsAckMsg

/- What the wake-up of the GPS task stands for. -/
def CommandState.HasNews (s : CommandState) : Prop :=
  s.isCmdSendTimeOut = true ∨ s.gpsAckMsg.isSome = true

/- Woken, before the flag is tested. -/
def Sender.woken : Sender → Bool
  | .deleteSemaphore => true
  | .nullSemaphore => true
  | .testTimeOut => true
  | _ => false

/- Behind a test that found no time-out. -/
def Sender.reads : Sender → Bool
  | .stopTimer => true
  | .readAck => true
  | _ => false

/- Every count of the semaphore stands for news. -/
structure AckOwned (s : CommandState) : Prop where
  acked : s.main = .releaseAck →
    s.sender.collects = true → s.gpsAckMsg.isSome = true
  timedOut : ∀ k, s.main = .releaseTimeOut k →
    s.sender.holds = true → s.isCmdSendTimeOut = true
  counted : s.sender.holds = true → ∀ n,
    s.semaphores s.command = some (n + 1) → s.HasNews
  woken : s.sender.woken = true → s.HasNews
  readable : s.sender.reads = true → s.gpsAckMsg.isSome = true
  empty : s.sender.collects = false → s.sender ≠ .nullAck →
    s.gpsAckMsg = none
  ledger : Ledger s.owed s.heap

theorem ackOwned_boot : AckOwned commandBoot :=
  { acked := fun hMain => by cases hMain
    timedOut := fun _ hMain => by cases hMain
    counted := fun hHolds => by cases hHolds
    woken := fun hWoken => by cases hWoken
    readable := fun hReads => by cases hReads
    empty := fun _ _ => rfl
    ledger := ledger_nil }

theorem Sender.collects_of_holds
    {sender : Sender}
    (hHolds : sender.holds = true) :
    sender.collects = true := by
  cases sender <;> simp_all [Sender.collects, Sender.holds]

theorem Sender.ne_nullAck_of_collects
    {sender : Sender}
    (hCollects : sender.collects = true) :
    sender ≠ .nullAck := by
  rintro rfl
  cases hCollects

/-
  A statement between two points at which the ack has still
  to be freed, that leaves the slot and the flag alone.
-/
theorem AckOwned.move
    {s s' : CommandState}
    (hOwned : AckOwned s)
    (hFrom : s.sender.collects = true)
    (hTo : s'.sender.collects = true)
    (hHolds : s'.sender.holds = true → s.sender.holds = true)
    (hMain : s'.main = s.main)
    (hSlot : s'.gpsAckMsg = s.gpsAckMsg)
    (hFlag : s'.isCmdSendTimeOut = s.isCmdSendTimeOut)
    (hHeap : s'.heap = s.heap)
    (hCounted : s'.sender.holds = true → ∀ n,
      s'.semaphores s'.command = some (n + 1) → s'.HasNews)
    (hWoken : s'.sender.woken = true → s'.HasNews)
    (hReadable : s'.sender.reads = true →
      s'.gpsAckMsg.isSome = true) :
    AckOwned s' := by
  refine ⟨?_, ?_, hCounted, hWoken, hReadable, ?_, ?_⟩
  · intro hRelease _
    rw [hMain] at hRelease
    rw [hSlot]
    exact hOwned.acked hRelease hFrom
  · intro k hRelease hAfter
    rw [hMain] at hRelease
    rw [hFlag]
    exact hOwned.timedOut k hRelease (hHolds hAfter)
  · intro hNot
    rw [hTo] at hNot
    cases hNot
  · have hLedger := hOwned.ledger
    unfold CommandState.owed at hLedger ⊢
    rw [if_neg (Sender.ne_nullAck_of_collects hFrom)]
      at hLedger
    rwa [if_neg (Sender.ne_nullAck_of_collects hTo), hSlot,
      hHeap]

/- The same, behind the deletion of the semaphore. -/
theorem AckOwned.behind
    {s s' : CommandState}
    (hOwned : AckOwned s)
    (hFrom : s.sender.collects = true)
    (hTo : s'.sender.collects = true)
    (hHolds : s'.sender.holds = false)
    (hMain : s'.main = s.main)
    (hSlot : s'.gpsAckMsg = s.gpsAckMsg)
    (hFlag : s'.isCmdSendTimeOut = s.isCmdSendTimeOut)
    (hHeap : s'.heap = s.heap)
    (hWoken : s'.sender.woken = true → s'.HasNews)
    (hReadable : s'.sender.reads = true →
      s'.gpsAckMsg.isSome = true) :
    AckOwned s' := by
  have hNot : ¬ s'.sender.holds = true := by
    rw [hHolds]
    decide
  exact hOwned.move hFrom hTo (fun hStill => absurd hStill hNot)
    hMain hSlot hFlag hHeap
    (fun hStill => absurd hStill hNot) hWoken hReadable

/- At a point at which no semaphore and no ack is held. -/
theorem ackOwned_of_not_collects
    {s : CommandState}
    (hCollects : s.sender.collects = false)
    (hEmpty : s.sender ≠ .nullAck → s.gpsAckMsg = none)
    (hLedger : Ledger s.owed s.heap) :
    AckOwned s := by
  refine ⟨?_, ?_, ?_, ?_, ?_, fun _ => hEmpty, hLedger⟩
  all_goals
    cases hSender : s.sender <;>
      simp_all [Sender.collects, Sender.holds, Sender.woken,
        Sender.reads]

theorem ackOwned_senderStep
    {s s' : CommandState}
    (hPublished : Published s)
    (hOwned : AckOwned s)
    (hCreates : s.sender = .createSemaphore →
      s.main.releases = false)
    (hStep : senderStep s = some s') :
    AckOwned s' := by
  have hFlight := hPublished.held
  have hCounted := hOwned.counted
  have hWoken := hOwned.woken
  have hReadable := hOwned.readable
  have hEmpty := hOwned.empty
  have hLedger := hOwned.ledger
  cases senderEffect_of_senderStep hStep with
  | cleared hAt =>
      rw [hAt] at hEmpty
      apply ackOwned_of_not_collects rfl
      · exact fun _ => hEmpty rfl (by decide)
      · simpa [CommandState.owed, hAt] using hLedger
  | @created next hAt hNext =>
      have hReleases := hCreates hAt
      rw [hAt] at hEmpty
      have hNone := hEmpty rfl (by decide)
      have hNot : next ≠ .nullAck := by
        rcases hNext with rfl | rfl <;> decide
      refine ⟨?_, ?_, ?_, ?_, ?_, fun _ _ => hNone, ?_⟩
      · intro hMain
        rw [hMain] at hReleases
        cases hReleases
      · intro k hMain
        rw [hMain] at hReleases
        cases hReleases
      · intro _ n hCount
        simp at hCount
      · rcases hNext with rfl | rfl <;> simp [Sender.woken]
      · rcases hNext with rfl | rfl <;> simp [Sender.reads]
      · simpa [CommandState.owed, hAt, hNot] using hLedger
  | emptied hAt | sent hAt | started hAt =>
      rw [hAt] at hCounted
      refine hOwned.move (by rw [hAt]; rfl) rfl
        (fun _ => by rw [hAt]; rfl) rfl rfl rfl rfl
        (fun _ => hCounted rfl) ?_ ?_
      · intro hWoken
        cases hWoken
      · intro hReads
        cases hReads
  | @woken handle n hAt hSem hCount =>
      rw [hAt] at hCounted hFlight
      have hSame : handle = s.command :=
        Option.some.inj (hSem.symm.trans (hFlight rfl).1)
      rw [hSame] at hCount
      have hNews := hCounted rfl n hCount
      refine hOwned.move (by rw [hAt]; rfl) rfl
        (fun _ => by rw [hAt]; rfl) rfl rfl rfl rfl
        (fun _ _ _ => hNews) (fun _ => hNews) ?_
      intro hReads
      cases hReads
  | deleted hAt _ =>
      rw [hAt] at hWoken
      refine hOwned.behind (by rw [hAt]; rfl) rfl rfl rfl rfl
        rfl rfl (fun _ => hWoken rfl) ?_
      intro hReads
      cases hReads
  | nulled hAt =>
      rw [hAt] at hWoken
      refine hOwned.behind (by rw [hAt]; rfl) rfl rfl rfl rfl
        rfl rfl (fun _ => hWoken rfl) ?_
      intro hReads
      cases hReads
  | acked hAt hFlag =>
      rw [hAt] at hWoken
      have hSome : s.gpsAckMsg.isSome = true :=
        (hWoken rfl).resolve_left (by simp [hFlag])
      refine hOwned.behind (by rw [hAt]; rfl) rfl rfl rfl rfl
        rfl rfl ?_ (fun _ => hSome)
      intro hStill
      cases hStill
  | stopped hAt =>
      rw [hAt] at hReadable
      refine hOwned.behind (by rw [hAt]; rfl) rfl rfl rfl rfl
        rfl rfl ?_ (fun _ => hReadable rfl)
      intro hStill
      cases hStill
  | timedOut hAt _ | read hAt _ =>
      refine hOwned.behind (by rw [hAt]; rfl) rfl rfl rfl rfl
        rfl rfl ?_ ?_
      · intro hStill
        cases hStill
      · intro hReads
        cases hReads
  | freed hAt =>
      apply ackOwned_of_not_collects rfl
      · exact fun hNot => absurd rfl hNot
      · have hOwed : Ledger s.gpsAckMsg s.heap := by
          simpa [CommandState.owed, hAt] using hLedger
        exact hOwed.free
  | returned hAt =>
      apply ackOwned_of_not_collects rfl
      · exact fun _ => rfl
      · simpa [CommandState.owed, hAt] using hLedger

/- The slot and the heap are left alone. -/
theorem AckOwned.keep
    {s s' : CommandState}
    (hOwned : AckOwned s)
    (hSender : s'.sender = s.sender)
    (hSlot : s'.gpsAckMsg = s.gpsAckMsg)
    (hHeap : s'.heap = s.heap)
    (hMain : s'.main ≠ .releaseAck)
    (hTimedOut : ∀ k, s'.main = .releaseTimeOut k →
      s'.isCmdSendTimeOut = true)
    (hFlag : s.isCmdSendTimeOut = true →
      s'.isCmdSendTimeOut = true)
    (hCounted : s'.sender.holds = true → ∀ n,
      s'.semaphores s'.command = some (n + 1) → s'.HasNews) :
    AckOwned s' := by
  refine ⟨fun hRelease => absurd hRelease hMain,
    fun k hRelease _ => hTimedOut k hRelease, hCounted,
    ?_, ?_, ?_, ?_⟩
  · intro hWoken
    rw [hSender] at hWoken
    unfold CommandState.HasNews
    rw [hSlot]
    exact (hOwned.woken hWoken).imp_left hFlag
  · rw [hSender, hSlot]
    exact hOwned.readable
  · rw [hSender, hSlot]
    exact hOwned.empty
  · have hLedger := hOwned.ledger
    unfold CommandState.owed at hLedger ⊢
    rwa [hSender, hSlot, hHeap]

/- A release announces an ack, or a time-out. -/
theorem AckOwned.news_of_releases
    {s : CommandState}
    (hOwned : AckOwned s)
    (hReleases : s.main.releases = true)
    (hHolds : s.sender.holds = true) :
    s.HasNews := by
  cases hMain : s.main with
  | releaseAck =>
      exact Or.inr (hOwned.acked hMain
        (Sender.collects_of_holds hHolds))
  | releaseTimeOut k =>
      exact Or.inl (hOwned.timedOut k hMain hHolds)
  | _ => simp [hMain, MainTask.releases] at hReleases

/- The slot is empty, and a command will free the block. -/
theorem AckOwned.store
    {s : CommandState}
    (hOwned : AckOwned s)
    (hNone : s.gpsAckMsg = none)
    (hCollects : s.sender.collects = true)
    (ack : TakenAck) :
    AckOwned
      { s with
        heap := s.heap ++
          [{ command := s.command, ack := ack, frees := 0 }]
        gpsAckMsg := some s.heap.length
        main := .releaseAck } := by
  refine ⟨?_, ?_, ?_, ?_, ?_, ?_, ?_⟩
  · exact fun _ _ => rfl
  · exact fun _ hMain => by cases hMain
  · exact fun _ _ _ => Or.inr rfl
  · exact fun _ => Or.inr rfl
  · exact fun _ => rfl
  · intro hNot
    rw [hCollects] at hNot
    cases hNot
  · have hLedger := hOwned.ledger
    have hNot := Sender.ne_nullAck_of_collects hCollects
    unfold CommandState.owed at hLedger ⊢
    rw [if_neg hNot] at hLedger ⊢
    rw [hNone] at hLedger
    exact hLedger.allocate s.command ack

theorem ackOwned_mainStep
    {s s' : CommandState}
    {malloc : Bool}
    (hOwned : AckOwned s)
    (hStores : s.main.stores = true →
      s.gpsAckMsg = none ∧
        (malloc = true → s.sender.collects = true))
    (hStep : mainStep malloc s = some s') :
    AckOwned s' := by
  cases mainEffect_of_mainStep hStep with
  | @moved main _ _ hReleases _ _ _ _ =>
      refine hOwned.keep rfl rfl rfl ?_ ?_ id hOwned.counted
      · intro hMain
        obtain rfl : main = .releaseAck := hMain
        cases hReleases
      · intro k hMain
        obtain rfl : main = .releaseTimeOut k := hMain
        cases hReleases
  | failed hMain _ =>
      rcases hStores (by rw [hMain]; rfl) with ⟨hNone, _⟩
      refine hOwned.keep rfl hNone.symm rfl (by simp) (by simp)
        id ?_
      intro hHolds n hCount
      have hNews := hOwned.counted hHolds n hCount
      rwa [CommandState.HasNews, hNone] at hNews
  | @stored ack hMain hMalloc =>
      rcases hStores (by rw [hMain]; rfl) with
        ⟨hNone, hCollects⟩
      exact hOwned.store hNone (hCollects hMalloc) ack
  | released hMain _ =>
      exact hOwned.keep rfl rfl rfl (by simp) (by simp) id
        (fun hHolds _ _ => hOwned.news_of_releases hMain hHolds)
  | flagged hMain =>
      exact hOwned.keep rfl rfl rfl (by simp)
        (fun _ _ => rfl) (fun _ => rfl)
        (fun _ _ _ => Or.inl rfl)

end Gps

------------------------------------------------------------
-- Whole Runs
------------------------------------------------------------

namespace Gps

theorem ackOwned_step
    {s s' : CommandState}
    {event : CommandEvent}
    (hPublished : Published s)
    (hOwned : AckOwned s)
    (hMeets : OwnedStep s event)
    (hStep : commandStep s event = some s') :
    AckOwned s' := by
  cases event with
  | start format =>
      rcases eq_of_start hStep with ⟨hIdle, rfl⟩
      have hNone := hOwned.empty (by rw [hIdle]; rfl)
        (by simp [hIdle])
      apply ackOwned_of_not_collects rfl
      · exact fun _ => hNone
      · simpa [CommandState.owed, hIdle] using hOwned.ledger
  | sender =>
      exact ackOwned_senderStep hPublished hOwned hMeets hStep
  | main malloc =>
      exact ackOwned_mainStep hOwned hMeets hStep
  | received data =>
      rcases eq_of_received hStep with ⟨_, rfl⟩
      exact hOwned.keep rfl rfl rfl
        (by simp [CommandState.receive])
        (by simp [CommandState.receive]) id hOwned.counted
  | fires command =>
      rcases eq_of_fires hStep with ⟨_, _, rfl⟩
      exact hOwned.keep rfl rfl rfl (by simp) (by simp) id
        hOwned.counted

/-
  The GPS task reads no null pointer, and when it returns
  every block has been freed once and both variables are
  NULL.
-/
structure AckSettled (s : CommandState) : Prop where
  read : s.sender = .readAck → s.gpsAckMsg.isSome = true
  freed : s.sender = .idle → ∀ block ∈ s.heap, block.frees = 1
  ack : s.sender = .idle → s.gpsAckMsg = none
  semaphore : s.sender = .idle → s.semCmdSending = none

/-
  In a run in which every ack is stored into the empty slot
  of a command that will free it, and no semaphore is
  created before a release that is still to come, the acks
  are settled in every state reached.
-/
theorem ack_settled
    (events : List CommandEvent)
    (last : CommandState)
    (hRun : run commandStep commandBoot events = some last)
    (hSteps : ∀ t ∈ taken commandStep commandBoot events,
      OwnedStep t.1 t.2) :
    AckSettled last := by
  rcases run_invariant
      (fun s => Published s ∧ AckOwned s) OwnedStep
      (fun s event s' hHold hMeets hStep =>
        ⟨published_step hHold.1 hStep,
          ackOwned_step hHold.1 hHold.2 hMeets hStep⟩)
      hRun hSteps ⟨published_boot, ackOwned_boot⟩
    with ⟨hPublished, hOwned⟩
  constructor
  · intro hRead
    exact hOwned.readable (by rw [hRead]; rfl)
  · intro hIdle
    have hNone := hOwned.empty (by rw [hIdle]; rfl)
      (by simp [hIdle])
    have hLedger := hOwned.ledger
    rw [CommandState.owed, if_neg (by simp [hIdle]), hNone]
      at hLedger
    exact hLedger.freed
  · intro hIdle
    exact hOwned.empty (by rw [hIdle]; rfl) (by simp [hIdle])
  · intro hIdle
    exact hPublished.null (by simp [hIdle, Sender.holds])
      (by simp [hIdle])

/- The command of `ackInTime`, up to its return. -/
def ackFreed : List CommandEvent :=
  ackInTime ++ [.sender, .sender, .sender, .sender, .sender]

theorem ack_settled_ackFreed :
    ∃ last, run commandStep commandBoot ackFreed = some last ∧
      last.sender = .idle ∧ last.heap.length = 1 ∧
      AckSettled last := by
  have hView : (run commandStep commandBoot ackFreed).map
      (fun s => (s.sender, s.heap.length)) =
        some (.idle, 1) := by
    decide +kernel
  have hAll : (taken commandStep commandBoot ackFreed).all
      (fun t => decide (OwnedStep t.1 t.2)) = true := by
    decide +kernel
  rcases Option.map_eq_some_iff.mp hView with
    ⟨last, hRun, hLast⟩
  simp only [Prod.mk.injEq] at hLast
  refine ⟨last, hRun, hLast.1, hLast.2, ?_⟩
  apply ack_settled ackFreed last hRun
  intro t hMem
  exact of_decide_eq_true (List.all_eq_true.mp hAll t hMem)

/-
  A second ack arrives before the GPS task has run: the
  block of the first one is never freed.
-/
def secondAck : List CommandEvent :=
  [.start .nmea, .sender, .sender, .sender, .sender, .sender,
    .received (ascii "$PGKC001,101,3*2D\r\n"),
    .main true, .main true, .main true, .main true,
    .main true,
    .received (ascii "$PGKC001,101,3*2D\r\n"),
    .main true, .main true, .main true, .main true,
    .main true,
    .sender, .sender, .sender, .sender, .sender, .sender,
    .sender, .sender]

theorem second_ack_leaks :
    ¬ ∀ events last,
      run commandStep commandBoot events = some last →
      AckSettled last := by
  intro hAll
  have hView : (run commandStep commandBoot secondAck).map
      (fun s => (s.sender, s.heap.map Block.frees)) =
        some (.idle, [0, 1]) := by
    decide +kernel
  rcases Option.map_eq_some_iff.mp hView with
    ⟨last, hRun, hLast⟩
  simp only [Prod.mk.injEq] at hLast
  have hFreed := (hAll secondAck last hRun).freed hLast.1
  have hMem : 0 ∈ last.heap.map Block.frees := by
    rw [hLast.2]
    exact List.mem_cons_self
  rcases List.mem_map.mp hMem with ⟨block, hBlock, hZero⟩
  rw [hFreed block hBlock] at hZero
  cases hZero

end Gps
