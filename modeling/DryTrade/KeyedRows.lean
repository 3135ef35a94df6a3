import DryTrade.Failure

/-!
# Inserting rows under unique keys

A collection of rows in which a key names at most one row.  A row whose key is free is added, a
row that is there already counts as a duplicate, and a row whose key is taken by another one is
a conflict.  Rows go in one after another exactly when no two of them, and none of them and a
row that is there, share a key and differ; what is then held is the union, in whatever order the
rows came.

## Main definitions

* `KeyedRows` — the rows with the counts of insertions and of duplicates.
* `KeyedRows.insert` — one row goes in.

## Main results

* `insertAll_eq_ok_iff` — when all of the rows go in.
* `insertAll_inserted` — what is held then, and what was counted.
* `Inserted.added_eq_iff` — when nothing was added.
-/

namespace DryTrade

/-- Rows under unique keys, with the number of rows added and of duplicates. -/
structure KeyedRows (α : Type) where
  rows : List α
  added : ℕ
  duplicates : ℕ

namespace KeyedRows

section

variable {ε α κ : Type} [DecidableEq α] [DecidableEq κ] (key : α → κ) (conflict : ε)

/-- One row goes in. -/
def insert (s : KeyedRows α) (x : α) : Except ε (KeyedRows α) :=
  match s.rows.find? fun y => key y == key x with
  | none => .ok ⟨s.rows ++ [x], s.added + 1, s.duplicates⟩
  | some y => if y = x then .ok { s with duplicates := s.duplicates + 1 } else .error conflict

end

section

variable {α κ : Type} (key : α → κ)

/-- Rows that share a key are one row. -/
def Agree (s : List α) : Prop := ∀ x ∈ s, ∀ y ∈ s, key x = key y → x = y

/-- No two rows share a key. -/
def Distinct (s : List α) : Prop := s.Pairwise fun x y => key x ≠ key y

/-- The rows `xs` went in: `s'` holds them with those of `s`. -/
structure Inserted (s s' : KeyedRows α) (xs : List α) : Prop where
  distinct : Distinct key s'.rows
  /-- What is held is the union. -/
  rows : ∀ z, z ∈ s'.rows ↔ z ∈ s.rows ∨ z ∈ xs
  /-- Every row counts once. -/
  counts : s'.added + s'.duplicates = s.added + s.duplicates + xs.length
  /-- What was added is what there is more of. -/
  length : s'.rows.length + s.added = s.rows.length + s'.added

end

section

variable {α κ : Type} {key : α → κ} {s s' : KeyedRows α} {xs : List α}

theorem Distinct.agree {l : List α} (h : Distinct key l) : Agree key l := by
  intro x hx y hy hkey
  have hsymm : Std.Symm fun x y : α => key x ≠ key y := ⟨fun _ _ h => h.symm⟩
  by_contra hne
  exact h.forall hx hy hne hkey

theorem Distinct.nodup {l : List α} (h : Distinct key l) : l.Nodup :=
  h.imp fun hne heq => hne (congrArg key heq)

theorem Agree.mono {l l' : List α} (h : Agree key l') (hsub : ∀ z ∈ l, z ∈ l') : Agree key l :=
  fun y hy z hz => h y (hsub y hy) z (hsub z hz)

theorem Inserted.refl (hs : Distinct key s.rows) : Inserted key s s [] :=
  ⟨hs, fun _ => by simp, rfl, rfl⟩

theorem Inserted.trans {s'' : KeyedRows α} {ys : List α} (h : Inserted key s s' xs)
    (h' : Inserted key s' s'' ys) : Inserted key s s'' (xs ++ ys) where
  distinct := h'.distinct
  rows z := by rw [h'.rows, h.rows, List.mem_append, or_assoc]
  counts := by
    have := h.counts
    have := h'.counts
    rw [List.length_append]
    omega
  length := by
    have := h.length
    have := h'.length
    omega

/-- Nothing is added exactly when every row was there. -/
theorem Inserted.added_eq_iff (hs : Distinct key s.rows) (h : Inserted key s s' xs) :
    s'.added = s.added ↔ ∀ x ∈ xs, x ∈ s.rows := by
  have hlen := h.length
  have hsub : s.rows ⊆ s'.rows := fun z hz => (h.rows z).mpr (.inl hz)
  constructor
  · intro hadded x hx
    have hperm : s.rows.Perm s'.rows :=
      (hs.nodup.subperm hsub).perm_of_length_le (by omega)
    exact hperm.mem_iff.mpr ((h.rows x).mpr (.inr hx))
  · intro hall
    have hsub' : s'.rows ⊆ s.rows := fun z hz => ((h.rows z).mp hz).elim id (hall z)
    have h₁ := (hs.nodup.subperm hsub).length_le
    have h₂ := (h.distinct.nodup.subperm hsub').length_le
    omega

end

section

variable {ε α κ : Type} [DecidableEq α] [DecidableEq κ] {key : α → κ} {conflict : ε}
  {s s' : KeyedRows α} {x : α} {xs : List α}

/-- **One row goes in exactly when no other row has its key.** -/
theorem insert_eq_ok_iff (conflict : ε) (hs : Distinct key s.rows) :
    (∃ s', s.insert key conflict x = .ok s') ↔ ∀ y ∈ s.rows, key y = key x → y = x := by
  unfold KeyedRows.insert
  cases hfound : s.rows.find? fun y => key y == key x with
  | none =>
    have hnone := List.find?_eq_none.mp hfound
    refine ⟨fun _ y hy hkey => absurd ?_ (hnone y hy), fun _ => ⟨_, rfl⟩⟩
    simpa using hkey
  | some y =>
    have hy : y ∈ s.rows := List.mem_of_find?_eq_some hfound
    have hkey : key y = key x := by simpa using List.find?_some hfound
    dsimp only
    split_ifs with heq
    · refine ⟨fun _ z hz hzkey => ?_, fun _ => ⟨_, rfl⟩⟩
      rw [← heq]
      exact hs.agree z hz y hy (hzkey.trans hkey.symm)
    · constructor
      · rintro ⟨s', h⟩
        cases h
      · exact fun h => absurd (h y hy hkey) heq

/-- What one row that goes in leaves. -/
theorem insert_inserted (hs : Distinct key s.rows) (h : s.insert key conflict x = .ok s') :
    Inserted key s s' [x] := by
  unfold KeyedRows.insert at h
  cases hfound : s.rows.find? fun y => key y == key x with
  | none =>
    simp only [hfound, Except.ok.injEq] at h
    subst h
    have hnone := List.find?_eq_none.mp hfound
    constructor
    · refine List.pairwise_append.mpr ⟨hs, List.pairwise_singleton _ _, ?_⟩
      intro y hy z hz
      rw [List.mem_singleton.mp hz]
      simpa using hnone y hy
    · exact fun z => List.mem_append
    · simp only [List.length_singleton]
      omega
    · simp only [List.length_append, List.length_singleton]
      omega
  | some y =>
    have hy : y ∈ s.rows := List.mem_of_find?_eq_some hfound
    simp only [hfound] at h
    split_ifs at h with heq
    obtain rfl := Except.ok.inj h
    refine ⟨hs, fun z => ⟨Or.inl, ?_⟩, by simp only [List.length_singleton]; omega, rfl⟩
    rintro (hz | hz)
    · exact hz
    · rw [List.mem_singleton.mp hz, ← heq]
      exact hy

/-- **The rows that went in are held with the others.** -/
theorem insertAll_inserted (hs : Distinct key s.rows)
    (h : xs.foldlM (KeyedRows.insert key conflict) s = .ok s') : Inserted key s s' xs := by
  induction xs generalizing s with
  | nil =>
    cases h
    exact .refl hs
  | cons x xs ih =>
    rw [List.foldlM_cons, bind_eq_ok] at h
    obtain ⟨s₁, hstep, hrest⟩ := h
    have h₁ := insert_inserted hs hstep
    exact h₁.trans (ih h₁.distinct hrest)

/-- **Rows go in exactly when those that share a key are one row.** -/
theorem insertAll_eq_ok_iff (conflict : ε) (xs : List α) (hs : Distinct key s.rows) :
    (∃ s', xs.foldlM (KeyedRows.insert key conflict) s = .ok s') ↔ Agree key (s.rows ++ xs) := by
  induction xs generalizing s with
  | nil =>
    rw [List.append_nil]
    exact ⟨fun _ => hs.agree, fun _ => ⟨s, rfl⟩⟩
  | cons x xs ih =>
    simp only [List.foldlM_cons, bind_eq_ok]
    constructor
    · rintro ⟨s', s₁, hstep, hrest⟩
      have h₁ := insert_inserted hs hstep
      refine ((ih h₁.distinct).mp ⟨s', hrest⟩).mono fun z hz => ?_
      rw [List.mem_append, h₁.rows]
      simpa [or_assoc] using hz
    · intro hagree
      obtain ⟨s₁, hstep⟩ := (insert_eq_ok_iff conflict (x := x) hs).mpr fun y hy hkey =>
        hagree y (List.mem_append_left _ hy) x (by simp) hkey
      have h₁ := insert_inserted hs hstep
      obtain ⟨s', hrest⟩ := (ih h₁.distinct).mpr (hagree.mono fun z hz => by
        rw [List.mem_append, h₁.rows] at hz
        simpa [or_assoc] using hz)
      exact ⟨s', s₁, hstep, hrest⟩

end

end KeyedRows
end DryTrade
