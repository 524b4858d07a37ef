import Mathlib.Tactic.Common

/-
  Places in a record, and sequences of stores to them.

  A place is what a C pointer to a field is: it can be read
  and written, and carries the laws that say so. A store is
  a place with a value already chosen. Stores to different
  places do not disturb each other; from that, a sequence of
  stores changes nothing exactly when every one of them
  writes what is already there.

  Main declarations:
    * `Place`, `Place.comp`, `Place.elem`, `Place.Disjoint`
    * `Store`, `Store.applyAll`
    * `Store.applyAll_eq_self_iff`
-/

------------------------------------------------------------
-- Places
------------------------------------------------------------

/- A readable and writable part of a state. -/
structure Place (σ α : Type) where
  get : σ → α
  set : α → σ → σ
  get_set : ∀ v s, get (set v s) = v := by intros; rfl
  set_get : ∀ s, set (get s) s = s := by intros; rfl

namespace Place

variable {σ τ α β : Type}

/- A part of a part. -/
def comp
    (p : Place σ τ)
    (q : Place τ α) :
    Place σ α :=
  { get := fun s => q.get (p.get s)
    set := fun v s => p.set (q.set v (p.get s)) s
    get_set := by
      intro v s
      rw [p.get_set, q.get_set]
    set_get := by
      intro s
      rw [q.set_get, p.set_get] }

/- Writing the second place leaves the first as it was. -/
def Disjoint
    (p : Place σ α)
    (q : Place σ β) : Prop :=
  ∀ v s, p.get (q.set v s) = p.get s

/- An element of a vector. -/
def elem
    {n : Nat}
    (k : Fin n) :
    Place (Vector α n) α :=
  { get := fun xs => xs[k]
    set := fun v xs => xs.set k v
    get_set := by simp
    set_get := by simp }

theorem disjoint_elem
    {n : Nat}
    {j k : Fin n}
    (hNe : j ≠ k) :
    (elem (α := α) j).Disjoint (elem (α := α) k) := by
  intro v xs
  have hVal : k.val ≠ j.val := fun hEq =>
    hNe (Fin.ext hEq.symm)
  exact Vector.getElem_set_ne k.isLt j.isLt hVal

/- Different parts of the same part. -/
theorem Disjoint.comp_left
    {q : Place τ α}
    {r : Place τ β}
    (hDisjoint : q.Disjoint r)
    (p : Place σ τ) :
    (p.comp q).Disjoint (p.comp r) := by
  intro v s
  simp only [comp, p.get_set, hDisjoint v]

/- Parts of different parts. -/
theorem Disjoint.comp
    {υ : Type}
    {p : Place σ τ}
    {q : Place σ υ}
    (hDisjoint : p.Disjoint q)
    (a : Place τ α)
    (b : Place υ β) :
    (p.comp a).Disjoint (q.comp b) := by
  intro v s
  simp only [Place.comp]
  rw [hDisjoint]

theorem set_eq_self_iff
    (p : Place σ α)
    (v : α)
    (s : σ) :
    p.set v s = s ↔ p.get s = v := by
  constructor
  · intro hSet
    rw [← hSet, p.get_set]
  · rintro rfl
    exact p.set_get s

/- The elements that are not written stay. -/
theorem getElem_foldl_set_of_notMem
    {n : Nat}
    (v : Fin n → α)
    {ks : List (Fin n)}
    (xs : Vector α n)
    {i : Fin n}
    (hOther : i ∉ ks) :
    (ks.foldl (fun xs k => (elem k).set (v k) xs) xs)[i] =
      xs[i] := by
  induction ks generalizing xs with
  | nil => rfl
  | cons k ks ih =>
      rw [List.mem_cons, not_or] at hOther
      have hVal : k.val ≠ i.val := fun hEq =>
        hOther.1 (Fin.ext hEq.symm)
      rw [List.foldl_cons, ih _ hOther.2]
      simp [elem, hVal]

/- The elements that are written have their value. -/
theorem getElem_foldl_set_of_mem
    {n : Nat}
    (v : Fin n → α)
    {ks : List (Fin n)}
    (xs : Vector α n)
    {i : Fin n}
    (hMem : i ∈ ks) :
    (ks.foldl (fun xs k => (elem k).set (v k) xs) xs)[i] =
      v i := by
  induction ks generalizing xs with
  | nil => cases hMem
  | cons k ks ih =>
      rw [List.foldl_cons]
      by_cases hLater : i ∈ ks
      · exact ih _ hLater
      · obtain rfl : i = k :=
          (List.mem_cons.mp hMem).resolve_right hLater
        rw [getElem_foldl_set_of_notMem v _ hLater]
        simp [elem]

/- Every element is written once. -/
theorem foldl_set_finRange
    {n : Nat}
    (v : Fin n → α)
    (xs : Vector α n) :
    (List.finRange n).foldl
        (fun xs k => (elem k).set (v k) xs) xs =
      Vector.ofFn v := by
  apply Vector.ext
  intro i hi
  have hElement := getElem_foldl_set_of_mem v xs
    (List.mem_finRange ⟨i, hi⟩)
  rw [Vector.getElem_ofFn]
  exact hElement

end Place

------------------------------------------------------------
-- Stores
------------------------------------------------------------

/- A write of one value, and whether it is already there. -/
structure Store (σ : Type) where
  write : σ → σ
  Held : σ → Prop
  held_write : ∀ s, Held (write s)
  write_of_held : ∀ s, Held s → write s = s

/- The store of a value to a place. -/
def Place.store
    {σ α : Type}
    (p : Place σ α)
    (v : α) : Store σ :=
  { write := p.set v
    Held := fun s => p.get s = v
    held_write := p.get_set v
    write_of_held := by
      rintro s rfl
      exact p.set_get s }

namespace Store

variable {σ : Type}

/- What the first store wrote survives the second. -/
def Survives
    (first second : Store σ) : Prop :=
  ∀ s, first.Held (second.write s) ↔ first.Held s

theorem survives_of_disjoint
    {α β : Type}
    {p : Place σ α}
    {q : Place σ β}
    (hDisjoint : p.Disjoint q)
    (v : α)
    (w : β) :
    (p.store v).Survives (q.store w) := by
  intro s
  simp only [Place.store, hDisjoint w s]

/- Perform stores one after another. -/
def applyAll
    (stores : List (Store σ))
    (s : σ) : σ :=
  stores.foldl (fun s store => store.write s) s

@[simp] theorem applyAll_nil
    (s : σ) :
    applyAll [] s = s := rfl

@[simp] theorem applyAll_cons
    (store : Store σ)
    (stores : List (Store σ))
    (s : σ) :
    applyAll (store :: stores) s =
      applyAll stores (store.write s) := rfl

theorem applyAll_append
    (first second : List (Store σ))
    (s : σ) :
    applyAll (first ++ second) s =
      applyAll second (applyAll first s) :=
  List.foldl_append

theorem held_applyAll_iff
    {store : Store σ}
    {stores : List (Store σ)}
    (hSurvives :
      ∀ later ∈ stores, store.Survives later)
    (s : σ) :
    store.Held (applyAll stores s) ↔ store.Held s := by
  induction stores generalizing s with
  | nil => rfl
  | cons next stores ih =>
      rw [applyAll_cons,
        ih (fun later hLater =>
          hSurvives later (List.mem_cons_of_mem next hLater))]
      exact hSurvives next List.mem_cons_self s

/- Every store of a sequence is held at its end. -/
theorem held_applyAll_of_mem
    {stores : List (Store σ)}
    (hPairwise : stores.Pairwise Survives)
    {store : Store σ}
    (hMem : store ∈ stores)
    (s : σ) :
    store.Held (applyAll stores s) := by
  induction stores generalizing s with
  | nil => cases hMem
  | cons first stores ih =>
      rw [List.pairwise_cons] at hPairwise
      rcases List.mem_cons.mp hMem with rfl | hLater
      · exact (held_applyAll_iff hPairwise.1 _).mpr
          (store.held_write s)
      · exact ih hPairwise.2 hLater (first.write s)

/-
  Stores that survive each other change nothing exactly when
  each of them was held at the start.
-/
theorem applyAll_eq_self_iff
    {stores : List (Store σ)}
    (hPairwise : stores.Pairwise Survives)
    (s : σ) :
    applyAll stores s = s ↔
      ∀ store ∈ stores, store.Held s := by
  constructor
  · intro hEq store hMem
    rw [← hEq]
    exact held_applyAll_of_mem hPairwise hMem s
  · intro hHeld
    induction stores with
    | nil => rfl
    | cons store stores ih =>
        rw [applyAll_cons,
          store.write_of_held s (hHeld store List.mem_cons_self)]
        exact ih hPairwise.of_cons (fun later hLater =>
          hHeld later (List.mem_cons_of_mem store hLater))

end Store
