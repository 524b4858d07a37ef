import GpsTracker.Lib.CString

/-
  The file system of the SDK, `include/api_fs.h`.

  Its calls are outside of the source. They are a parameter
  of the model, over any type of disks, and what the code
  relies on is what `api_inc_fs.h` says of the flags of
  `API_FS_Open` and what a write does to an open file. A
  call can fail at any time, and a write can stop anywhere.

  Main declarations:
    * `Gps.ApiFs`, `Gps.ApiFs.Documented`
    * `Gps.Grows`
    * `Gps.smallCard`, `Gps.documented_smallCard`
-/

open CString

------------------------------------------------------------
-- The Calls
------------------------------------------------------------

namespace Gps

/- `FS_O_RDWR` -/
def fsORdwr : UInt32 := 2

/- `FS_O_APPEND` -/
def fsOAppend : UInt32 := 0x0008

/- `FS_O_CREAT` -/
def fsOCreat : UInt32 := 0x0200

/- `FS_O_TRUNC` -/
def fsOTrunc : UInt32 := 0x0400

/- A `char*` that is used as a path; it may be NULL. -/
abbrev Path := Option (List UInt8)

/-
  The calls, and what a disk has in its files and open under
  its descriptors. Two paths may name one file.
-/
structure ApiFs (Disk File : Type) where
  apiFsOpen : Path → UInt32 → UInt32 → Disk → Int × Disk
  apiFsWrite : Int → List UInt8 → Disk → Int × Disk
  apiFsClose : Int → Disk → Disk
  named : Path → File
  content : Disk → File → Option (List UInt8)
  opened : Disk → Int → Option (File × UInt32)

end Gps

------------------------------------------------------------
-- Files That Grow
------------------------------------------------------------

namespace Gps

/-
  Bytes come behind what a file holds. A file that is not
  there may be created.
-/
def Grows :
    Option (List UInt8) → List UInt8 →
      Option (List UInt8) → Prop
| some old, bytes, new => new = some (old ++ bytes)
| none, bytes, new => new = some bytes ∨ new = none ∧ bytes = []

theorem Grows.refl
    (file : Option (List UInt8)) :
    Grows file [] file := by
  cases file with
  | none => exact Or.inr ⟨rfl, rfl⟩
  | some old => exact congrArg some (List.append_nil old).symm

theorem Grows.trans
    {first second third : Option (List UInt8)}
    {bytes later : List UInt8}
    (hFirst : Grows first bytes second)
    (hSecond : Grows second later third) :
    Grows first (bytes ++ later) third := by
  cases first with
  | some old =>
      cases hFirst
      rw [Grows, ← List.append_assoc]
      exact hSecond
  | none =>
      rcases hFirst with rfl | ⟨rfl, rfl⟩
      · exact Or.inl hSecond
      · exact hSecond

/- A file that is not there counts as an empty one. -/
theorem Grows.getD
    {file file' : Option (List UInt8)}
    {bytes : List UInt8}
    (hGrows : Grows file bytes file') :
    file'.getD [] = file.getD [] ++ bytes := by
  cases file with
  | some old =>
      cases hGrows
      rfl
  | none => rcases hGrows with rfl | ⟨rfl, rfl⟩ <;> rfl

end Gps

------------------------------------------------------------
-- What Is Documented
------------------------------------------------------------

namespace Gps

variable {Disk File : Type}

/-
  `FS_O_TRUNC` is the flag that truncates a file. Without it
  a file that is there is not changed by `API_FS_Open`, and
  one that is not can be created. A write to a descriptor
  with `FS_O_APPEND` stores behind the end of its file; if it
  does not fail its value is the number of bytes stored.
-/
structure ApiFs.Documented
    (fs : ApiFs Disk File) : Prop where
  openKeeps :
    ∀ path flags mode disk file,
      flags &&& fsOTrunc = 0 →
        Grows (fs.content disk file) []
          (fs.content (fs.apiFsOpen path flags mode disk).2 file)
  openOpens :
    ∀ path flags mode disk,
      0 ≤ (fs.apiFsOpen path flags mode disk).1 →
        fs.opened (fs.apiFsOpen path flags mode disk).2
            (fs.apiFsOpen path flags mode disk).1 =
          some (fs.named path, flags)
  writeAppends :
    ∀ fd bytes disk file flags,
      fs.opened disk fd = some (file, flags) →
      flags &&& fsOAppend ≠ 0 →
        ∃ stored,
          stored <+: bytes ∧
          (0 ≤ (fs.apiFsWrite fd bytes disk).1 →
            (stored.length : Int) =
              (fs.apiFsWrite fd bytes disk).1) ∧
          Grows (fs.content disk file) stored
            (fs.content (fs.apiFsWrite fd bytes disk).2 file) ∧
          ∀ other, other ≠ file →
            fs.content (fs.apiFsWrite fd bytes disk).2 other =
              fs.content disk other
  closeKeeps :
    ∀ fd disk, fs.content (fs.apiFsClose fd disk) =
      fs.content disk

end Gps

------------------------------------------------------------
-- A Small Card
------------------------------------------------------------

namespace Gps

/-
  A card with one descriptor: its files, what is open at
  which offset, and how many bytes are free.
-/
structure SmallCard where
  files : Path → Option (List UInt8)
  descriptor : Option (Path × UInt32 × Nat)
  free : Nat

/-
  There is no file without a name, no second descriptor, and
  no new file without `FS_O_CREAT`.
-/
def SmallCard.fsOpen
    (path : Path)
    (flags : UInt32)
    (disk : SmallCard) : Int × SmallCard :=
  match path, disk.descriptor, disk.files path with
  | none, _, _ => (-4200011, disk)
  | some _, some _, _ => (-4200007, disk)
  | some _, none, none =>
      if flags &&& fsOCreat = 0 then
        (-4200003, disk)
      else
        (0,
          { disk with
            files := fun other =>
              if other = path then some [] else disk.files other
            descriptor := some (path, flags, 0) })
  | some _, none, some old =>
      (0,
        { disk with
          files := fun other =>
            if other = path then
              some (if flags &&& fsOTrunc = 0 then old else [])
            else
              disk.files other
          descriptor := some (path, flags, 0) })

/- A write ends where the card is full. -/
def SmallCard.fsWrite
    (fd : Int)
    (bytes : List UInt8)
    (disk : SmallCard) : Int × SmallCard :=
  match disk.descriptor with
  | none => (-4200012, disk)
  | some (path, flags, offset) =>
      if fd = 0 then
        let old := (disk.files path).getD []
        let start :=
          if flags &&& fsOAppend = 0 then offset else old.length
        let stored := bytes.take disk.free
        (stored.length,
          { files := fun other =>
              if other = path then
                some (old.take start ++ stored ++
                  old.drop (start + stored.length))
              else
                disk.files other
            descriptor :=
              some (path, flags, start + stored.length)
            free := disk.free - stored.length })
      else
        (-4200012, disk)

/- A path names the file of this name. -/
def smallCard : ApiFs SmallCard Path where
  apiFsOpen path flags _ disk := disk.fsOpen path flags
  apiFsWrite fd bytes disk := disk.fsWrite fd bytes
  apiFsClose fd disk :=
    if fd = 0 then { disk with descriptor := none } else disk
  named path := path
  content disk := disk.files
  opened disk fd :=
    if fd = 0 then
      disk.descriptor.map fun (path, flags, _) => (path, flags)
    else
      none

theorem smallCard_openKeeps
    (path : Path)
    (flags : UInt32)
    (disk : SmallCard)
    (file : Path)
    (hKeeps : flags &&& fsOTrunc = 0) :
    Grows (disk.files file) []
      ((disk.fsOpen path flags).2.files file) := by
  unfold SmallCard.fsOpen
  split
  · exact Grows.refl _
  · exact Grows.refl _
  · rename_i hNew
    split
    · exact Grows.refl _
    · dsimp only
      split
      · rename_i hFile
        rw [hFile, hNew]
        exact Or.inl rfl
      · exact Grows.refl _
  · rename_i hOld
    dsimp only
    split
    · rename_i hFile
      rw [hFile, hOld]
      exact Grows.refl _
    · exact Grows.refl _

theorem smallCard_openOpens
    {path : Path}
    {flags : UInt32}
    {disk : SmallCard}
    (hOpened : 0 ≤ (disk.fsOpen path flags).1) :
    smallCard.opened (disk.fsOpen path flags).2
        (disk.fsOpen path flags).1 =
      some (path, flags) := by
  unfold SmallCard.fsOpen at hOpened ⊢
  split at hOpened
  · exact absurd hOpened (by simp)
  · exact absurd hOpened (by simp)
  · split at hOpened
    · exact absurd hOpened (by simp)
    · rename_i hCreates
      simp only [if_neg hCreates]
      rfl
  · rfl

theorem smallCard_writeAppends
    {fd : Int}
    {disk : SmallCard}
    {file : Path}
    {flags : UInt32}
    (bytes : List UInt8)
    (hOpened : smallCard.opened disk fd = some (file, flags))
    (hAppend : flags &&& fsOAppend ≠ 0) :
    ∃ stored,
      stored <+: bytes ∧
      (0 ≤ (disk.fsWrite fd bytes).1 →
        (stored.length : Int) = (disk.fsWrite fd bytes).1) ∧
      Grows (disk.files file) stored
        ((disk.fsWrite fd bytes).2.files file) ∧
      ∀ other, other ≠ file →
        (disk.fsWrite fd bytes).2.files other =
          disk.files other := by
  rcases disk with ⟨files, descriptor, free⟩
  rcases descriptor with _ | ⟨path, modes, offset⟩
  · simp [smallCard] at hOpened
  · simp only [smallCard, Option.map_some] at hOpened
    split at hOpened
    · rename_i hFd
      cases hOpened
      refine ⟨bytes.take free, List.take_prefix _ _, ?_, ?_, ?_⟩
      · simp [SmallCard.fsWrite, hFd]
      · rw [SmallCard.fsWrite]
        simp only [if_pos hFd, if_pos, if_neg hAppend,
          List.take_length]
        cases files file <;> simp [Grows]
      · intro other hOther
        simp [SmallCard.fsWrite, hFd, hOther]
    · cases hOpened

theorem documented_smallCard :
    smallCard.Documented where
  openKeeps path flags mode disk file hKeeps :=
    smallCard_openKeeps path flags disk file hKeeps
  openOpens path flags mode disk hOpened :=
    smallCard_openOpens hOpened
  writeAppends fd bytes disk file flags hOpened hAppend :=
    smallCard_writeAppends bytes hOpened hAppend
  closeKeeps fd disk := by
    simp only [smallCard]
    split <;> rfl

end Gps
