import GpsTracker.Gps.AgpsPacks

/-
  Where `GPS_AGPS` reads and writes its buffer.

  The body begins behind the header and is padded to whole
  packs of 512 bytes; the send loop reads one pack more. All
  of this stays inside the allocation of 5120 bytes exactly
  when the header, the padded body and one more pack do.

  Main declarations:
    * `Gps.PaddingWrites`, `Gps.PackReads`
    * `Gps.AgpsInside`, `Gps.agps_inside_iff`
-/

open CString Machine

------------------------------------------------------------
-- Bytes of the Body
------------------------------------------------------------

namespace Gps

/- `bufferLen` of `GPS_AGPS`, the size of the allocation. -/
def agpsBufferLength : Nat := 5120

/- The padding writes the byte at this offset of `gpdData`. -/
def PaddingWrites
    (gpdLen i : Nat) : Prop :=
  gpdLen % 512 ≠ 0 ∧ gpdLen ≤ i ∧
    i < gpdLen + (512 - gpdLen % 512)

theorem padded_of_writes
    {gpdData : Nat → UInt8}
    {gpdLen i : Nat}
    (hWrites : PaddingWrites gpdLen i) :
    padded gpdData gpdLen i = 0 := by
  rw [padded, if_pos hWrites.1]
  exact if_pos hWrites.2

theorem padded_of_not_writes
    {gpdData : Nat → UInt8}
    {gpdLen i : Nat}
    (hWrites : ¬ PaddingWrites gpdLen i) :
    padded gpdData gpdLen i = gpdData i := by
  unfold padded
  split_ifs with hPadding
  · exact if_neg fun hInside => hWrites ⟨hPadding, hInside⟩
  · rfl

/- An iteration reads the byte at this offset of `gpdData`. -/
def PackReads
    (gpdLen : Nat)
    (s : SendState)
    (i : Nat) : Prop :=
  s.i * 512 ≤ gpdLen ∧
    s.i * 512 ≤ i ∧ i < s.i * 512 + 512

/- An iteration depends on no other byte. -/
theorem sendBody_congr
    {gpdData gpdData' : Nat → UInt8}
    {gpdLen : Nat}
    {s : SendState}
    (hSame : ∀ i, PackReads gpdLen s i →
      gpdData i = gpdData' i)
    (exchange : Nat → Exchange) :
    sendBody gpdData gpdLen exchange s =
      sendBody gpdData' gpdLen exchange s := by
  by_cases hEnd : s.i * 512 > gpdLen
  · simp only [sendBody, if_pos hEnd]
  · have hPack : packAt gpdData (s.i * 512) =
        packAt gpdData' (s.i * 512) := by
      unfold packAt
      apply List.map_congr_left
      intro k hk
      have hLess := List.mem_range.mp hk
      have hReads : PackReads gpdLen s (s.i * 512 + k) := by
        unfold PackReads
        omega
      exact hSame _ hReads
    simp only [sendBody, if_neg hEnd, hPack]

end Gps

------------------------------------------------------------
-- The Bound
------------------------------------------------------------

namespace Gps

/-
  `GPS_AGPS` stays inside its buffer, with the body from
  this index on: it pads inside, and whatever becomes of the
  exchanges, every iteration that it comes to reads inside.
-/
structure AgpsInside
    (env : Agps)
    (indexBody : Nat) : Prop where
  padding : ∀ i,
    PaddingWrites (gpdLen env.download indexBody) i →
    indexBody + i < agpsBufferLength
  packs : ∀ pack s,
    Loop.Reaches (agpsLoop { env with pack := pack } indexBody)
      sendStart s →
    ∀ i,
      PackReads (paddedLen (gpdLen env.download indexBody)) s i →
      indexBody + i < agpsBufferLength

/- Without a failure the loop comes to every pack. -/
theorem exists_reaches_index
    {gpdData : Nat → UInt8}
    {packs : Nat}
    (hPacks : packs < 128)
    {i : Nat}
    (hIndex : i ≤ packs) :
    ∃ s, Loop.Reaches
        (sendBody gpdData (packs * 512) alwaysAcked) sendStart s ∧
      s.i = i ∧ s.sendFailTimes = 0 := by
  induction i with
  | zero => exact ⟨sendStart, .refl, rfl, rfl⟩
  | succ i ih =>
      rcases ih (by omega) with ⟨s, hReaches, rfl, hFails⟩
      have hIndex' : s.i ≤ packs + 1 := by omega
      have hRetries : s.sendFailTimes ≤ 3 := by omega
      rcases @sendBody_cases alwaysAcked gpdData packs hPacks s
          hIndex' hRetries with
        ⟨_, _, hBody⟩ | ⟨_, hEnd, _⟩ | ⟨hFailed, _⟩ |
          ⟨hFailed, _⟩
      · exact ⟨_, hReaches.next hBody, rfl, rfl⟩
      · omega
      · cases hFailed
      · cases hFailed

theorem gpdLen_eq
    {download : GetResult}
    {ret indexBody : Nat}
    (hValue : download.value = ret)
    (hRet : ret ≤ agpsBufferLength)
    (hHeader : indexBody ≤ ret) :
    gpdLen download indexBody = ret - indexBody := by
  unfold agpsBufferLength at hRet
  unfold gpdLen u16 wrap
  omega

/- The body in whole packs. -/
theorem paddedLen_eq
    {len : Nat}
    (hLen : len ≤ agpsBufferLength) :
    paddedLen len = (len + 511) / 512 * 512 := by
  unfold agpsBufferLength at hLen
  unfold paddedLen u16 wrap
  split <;> omega

/-
  `GPS_AGPS` stays inside its buffer exactly when there is
  room for one more pack behind the padded body.
-/
theorem agps_inside_iff
    {env : Agps}
    {ret indexBody : Nat}
    (hValue : env.download.value = ret)
    (hRet : ret ≤ agpsBufferLength)
    (hHeader : indexBody ≤ ret) :
    AgpsInside env indexBody ↔
      indexBody + (ret - indexBody + 511) / 512 * 512 + 512 ≤
        agpsBufferLength := by
  have hLen := gpdLen_eq hValue hRet hHeader
  have hPadded := paddedLen_eq
    (show ret - indexBody ≤ agpsBufferLength by omega)
  constructor
  · rintro ⟨_, hPacks⟩
    rw [hLen, hPadded] at hPacks
    have hFew : (ret - indexBody + 511) / 512 < 128 := by
      unfold agpsBufferLength at hRet
      omega
    rcases exists_reaches_index hFew (Nat.le_refl _) with
      ⟨s, hReaches, hIndex, _⟩
    have hLast := hPacks alwaysAcked s (by
        simp only [agpsLoop, hLen, hPadded]
        exact hReaches)
      ((ret - indexBody + 511) / 512 * 512 + 511)
      ⟨by omega, by omega, by omega⟩
    omega
  · intro hRoom
    constructor
    · intro i hWrites
      rw [hLen] at hWrites
      rcases hWrites with ⟨hPartial, _, hLess⟩
      omega
    · intro pack s _ i hReads
      rw [hLen, hPadded] at hReads
      rcases hReads with ⟨hMore, _, hLess⟩
      omega

/- A response with a header of 19 bytes and this length. -/
def responseOf (ret : Nat) : GetResult :=
  { value := ret
    retBuffer := ascii "HTTP/1.1 200 OK\r\n\r\n" ++
      List.replicate (agpsBufferLength - 19) 0
    bufferLen := ret
    closes := 1 }

/- A call whose download is this response. -/
def agpsOf (ret : Nat) : Agps :=
  { downloadGpd := true
    malloc := true
    download := responseOf ret
    binaryMode := ⟨true, true⟩
    pack := alwaysAcked
    nmeaMode := ⟨true, true⟩ }

theorem agpsStart_agpsOf
    (ret : Nat) :
    agpsStart (agpsOf ret) = .next 19 := by
  have hBody : findGpdData (agpsOf ret).download.retBuffer =
      some 19 := by
    show findGpdData (ascii "HTTP/1.1 200 OK\r\n\r\n" ++
      List.replicate (agpsBufferLength - 19) 0) = some 19
    decide
  have hValue : ¬ (agpsOf ret).download.value < 0 := by
    show ¬ (ret : Int) < 0
    omega
  simp only [agpsStart, hBody, if_neg hValue]
  rfl

theorem agps_inside_one_pack :
    AgpsInside (agpsOf 531) 19 := by
  have hValue : (agpsOf 531).download.value = (531 : Nat) := rfl
  rw [agps_inside_iff hValue (by decide) (by decide)]
  decide

/- A body of nine packs leaves no room for the tenth read. -/
theorem ninth_pack_overruns :
    ¬ ∀ (env : Agps) (ret indexBody : Nat),
      env.download.value = ret →
      0 < ret → ret ≤ agpsBufferLength →
      agpsStart env = .next indexBody →
      indexBody ≤ ret →
      AgpsInside env indexBody := by
  intro hAll
  have hInside := hAll (agpsOf 4627) 4627 19 rfl (by decide)
    (by decide) (agpsStart_agpsOf 4627) (by decide)
  have hValue : (agpsOf 4627).download.value = (4627 : Nat) :=
    rfl
  rw [agps_inside_iff hValue (by decide) (by decide)] at hInside
  revert hInside
  decide

end Gps
