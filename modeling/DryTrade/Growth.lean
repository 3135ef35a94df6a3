import DryTrade.Failure

/-!
# Append-only lists and folds that may raise

A list that a computation only appends to, with a property of what it appends,
and the induction over a fold in `Except`, for what it returns and for what it
never raises.

## Main definitions

* `Grows` — `l'` is `l` with elements satisfying `P` after it.
* `Avoids` — a computation never raises an error that satisfies `bad`.

## Main results

* `Grows.filter_eq` — what was there before is recovered by filtering on `P`.
* `foldlM_preserves` — a property kept by every step is kept by the fold.
* `avoids_bind`, `avoids_foldlM` — what a sequence and a fold never raise.
-/

namespace DryTrade

/-- `l'` is `l` followed by elements that all satisfy `P`. -/
def Grows {α : Type*} (P : α → Prop) (l l' : List α) : Prop :=
  ∃ added, l' = l ++ added ∧ ∀ a ∈ added, P a

namespace Grows

variable {α : Type*} {P Q : α → Prop} {l l' l'' : List α}

theorem refl (l : List α) : Grows P l l := ⟨[], by simp, by simp⟩

theorem single {a : α} (h : P a) : Grows P l (l ++ [a]) := ⟨[a], rfl, by simpa using h⟩

theorem trans (h : Grows P l l') (h' : Grows P l' l'') : Grows P l l'' := by
  obtain ⟨a, rfl, ha⟩ := h
  obtain ⟨b, rfl, hb⟩ := h'
  refine ⟨a ++ b, by simp, fun x hx => ?_⟩
  rcases List.mem_append.mp hx with hx | hx
  · exact ha x hx
  · exact hb x hx

theorem imp (h : Grows P l l') (hPQ : ∀ a, P a → Q a) : Grows Q l l' := by
  obtain ⟨added, hl, hP⟩ := h
  exact ⟨added, hl, fun a ha => hPQ a (hP a ha)⟩

/-- A property of the old elements and of the new ones holds of all. -/
theorem forall_mem (h : Grows P l l') (hl : ∀ a ∈ l, Q a) (hPQ : ∀ a, P a → Q a) :
    ∀ a ∈ l', Q a := by
  obtain ⟨added, rfl, hP⟩ := h
  intro a ha
  rcases List.mem_append.mp ha with ha | ha
  · exact hl a ha
  · exact hPQ a (hP a ha)

theorem isPrefix (h : Grows P l l') : l <+: l' := by
  obtain ⟨added, rfl, -⟩ := h
  exact List.prefix_append l added

/-- The old elements are those a filter keeps, when it refuses every new one. -/
theorem filter_eq (h : Grows P l l') (p : α → Bool) (hold : ∀ a ∈ l, p a = true)
    (hnew : ∀ a, P a → p a = false) : l'.filter p = l := by
  obtain ⟨added, rfl, hP⟩ := h
  rw [List.filter_append, List.filter_eq_self.mpr hold,
    List.filter_eq_nil_iff.mpr fun a ha => by simp [hnew a (hP a ha)], List.append_nil]

end Grows

/-- A property kept by every step of a fold is kept by the fold. -/
theorem foldlM_preserves {ε α β : Type} {f : β → α → Except ε β} {P : β → Prop}
    (hstep : ∀ b a b', P b → f b a = .ok b' → P b') :
    ∀ (l : List α) (b b' : β), P b → l.foldlM f b = .ok b' → P b' := by
  intro l
  induction l with
  | nil =>
    intro b b' hb h
    cases h
    exact hb
  | cons a l ih =>
    intro b b' hb h
    rw [List.foldlM_cons, bind_eq_ok] at h
    obtain ⟨b1, h1, h2⟩ := h
    exact ih b1 b' (hstep b a b1 hb h1) h2

/-- A fold each of whose steps is followed by a step of another fold is followed by it. -/
theorem foldlM_simulates {ε α β γ : Type} {f : β → α → Except ε β} {g : γ → α → Except ε γ}
    {R : β → γ → Prop}
    (hstep : ∀ b a b' c, R b c → f b a = .ok b' → ∃ c', g c a = .ok c' ∧ R b' c') :
    ∀ (l : List α) (b b' : β) (c : γ), R b c → l.foldlM f b = .ok b' →
      ∃ c', l.foldlM g c = .ok c' ∧ R b' c' := by
  intro l
  induction l with
  | nil =>
    intro b b' c hR h
    cases h
    exact ⟨c, rfl, hR⟩
  | cons a l ih =>
    intro b b' c hR h
    rw [List.foldlM_cons, bind_eq_ok] at h
    obtain ⟨b₁, hfirst, h⟩ := h
    obtain ⟨c₁, hfirst', hR₁⟩ := hstep b a b₁ c hR hfirst
    obtain ⟨c', h', hR'⟩ := ih b₁ b' c₁ hR₁ h
    exact ⟨c', by rw [List.foldlM_cons, hfirst', ok_bind, h'], hR'⟩

/-- A fold over an appended list is the two folds in sequence. -/
theorem foldlM_append_eq_ok {ε α β : Type} {f : β → α → Except ε β} {l₁ l₂ : List α} {b b' : β} :
    (l₁ ++ l₂).foldlM f b = .ok b' ↔ ∃ c, l₁.foldlM f b = .ok c ∧ l₂.foldlM f c = .ok b' := by
  rw [List.foldlM_append, bind_eq_ok]

/-- A fold over one more element is one more step. -/
theorem foldlM_concat_eq_ok {ε α β : Type} {f : β → α → Except ε β} {l : List α} {a : α}
    {b b' : β} :
    (l ++ [a]).foldlM f b = .ok b' ↔ ∃ c, l.foldlM f b = .ok c ∧ f c a = .ok b' := by
  rw [foldlM_append_eq_ok]
  refine exists_congr fun c => and_congr_right fun _ => ?_
  change (f c a >>= fun b => .ok b) = .ok b' ↔ _
  simp only [bind_eq_ok, Except.ok.injEq, exists_eq_right]

/-- A map over a nonempty list returns exactly when its head and its tail do. -/
theorem mapM_cons_eq_ok {ε α β : Type} {f : α → Except ε β} {a : α} {l : List α} {bs : List β} :
    (a :: l).mapM f = .ok bs ↔ ∃ b bs', f a = .ok b ∧ l.mapM f = .ok bs' ∧ bs = b :: bs' := by
  rw [List.mapM_cons, bind_eq_ok]
  refine exists_congr fun b => ?_
  rw [bind_eq_ok]
  constructor
  · rintro ⟨hb, bs', hbs', h⟩
    cases h
    exact ⟨bs', hb, hbs', rfl⟩
  · rintro ⟨bs', hb, hbs', rfl⟩
    exact ⟨hb, bs', hbs', rfl⟩

/-- A map whose every element returns, returns. -/
theorem mapM_of_forall {ε α β : Type} {f : α → Except ε β} :
    ∀ {l : List α}, (∀ a ∈ l, ∃ b, f a = .ok b) → ∃ bs, l.mapM f = .ok bs := by
  intro l
  induction l with
  | nil =>
    intro _
    exact ⟨[], rfl⟩
  | cons a l ih =>
    intro h
    obtain ⟨b, hb⟩ := h a List.mem_cons_self
    obtain ⟨bs, hbs⟩ := ih fun a' ha' => h a' (List.mem_cons_of_mem a ha')
    exact ⟨b :: bs, mapM_cons_eq_ok.mpr ⟨b, bs, hb, hbs, rfl⟩⟩

/-- A map that raises nowhere is a plain map. -/
theorem mapM_eq_map {ε α β : Type} {f : α → Except ε β} {g : α → β} :
    ∀ {l : List α}, (∀ a ∈ l, f a = .ok (g a)) → l.mapM f = .ok (l.map g) := by
  intro l
  induction l with
  | nil =>
    intro _
    rfl
  | cons a l ih =>
    intro h
    exact mapM_cons_eq_ok.mpr ⟨g a, l.map g, h a List.mem_cons_self,
      ih fun a' ha' => h a' (List.mem_cons_of_mem a ha'), rfl⟩

/-- A loop returns when every turn of it does. -/
theorem forM_eq_ok {ε α : Type} {f : α → Except ε Unit} :
    ∀ {l : List α} {u : Unit}, l.forM f = .ok u ↔ ∀ a ∈ l, f a = .ok () := by
  intro l
  induction l with
  | nil =>
    intro u
    exact iff_of_true rfl fun a ha => (List.not_mem_nil ha).elim
  | cons a l ih =>
    intro u
    change (f a >>= fun _ => l.forM f) = .ok u ↔ _
    rw [bind_eq_ok, List.forall_mem_cons]
    constructor
    · rintro ⟨_, ha, hl⟩
      exact ⟨ha, ih.mp hl⟩
    · rintro ⟨ha, hl⟩
      exact ⟨(), ha, ih.mpr hl⟩

/-- A map that returns, returns for every element. -/
theorem forall_of_mapM {ε α β : Type} {f : α → Except ε β} :
    ∀ {l : List α} {bs : List β}, l.mapM f = .ok bs → ∀ a ∈ l, ∃ b ∈ bs, f a = .ok b := by
  intro l
  induction l with
  | nil =>
    intro bs _ a ha
    cases ha
  | cons a l ih =>
    intro bs h a' ha'
    obtain ⟨b, bs', hb, hbs', rfl⟩ := mapM_cons_eq_ok.mp h
    rcases List.mem_cons.mp ha' with rfl | ha'
    · exact ⟨b, List.mem_cons_self, hb⟩
    · obtain ⟨b', hmem, hb'⟩ := ih hbs' a' ha'
      exact ⟨b', List.mem_cons_of_mem b hmem, hb'⟩

/-- A map that returns, returns element by element. -/
theorem forall₂_of_mapM {ε α β : Type} {f : α → Except ε β} :
    ∀ {l : List α} {bs : List β},
      l.mapM f = .ok bs → List.Forall₂ (fun a b => f a = .ok b) l bs := by
  intro l
  induction l with
  | nil =>
    intro bs h
    cases h
    exact .nil
  | cons a l ih =>
    intro bs h
    obtain ⟨b, bs', hb, hbs', rfl⟩ := mapM_cons_eq_ok.mp h
    exact .cons hb (ih hbs')

/-- Related lists are related at each index. -/
theorem exists_of_forall₂ {α β : Type} {R : α → β → Prop} {l : List α} {l' : List β}
    (h : List.Forall₂ R l l') {i : ℕ} {b : β} (hb : l'[i]? = some b) :
    ∃ a, l[i]? = some a ∧ R a b := by
  induction h generalizing i with
  | nil => cases hb
  | @cons a b' l l' hab _ ih =>
    cases i with
    | zero =>
      cases hb
      exact ⟨a, rfl, hab⟩
    | succ i => exact ih hb

/-- What is pairwise related stays so under a map that preserves the relation. -/
theorem pairwise_of_forall₂ {α β : Type} {R : α → β → Prop} {S : α → α → Prop} {T : β → β → Prop}
    (hST : ∀ a a' b b', R a b → R a' b' → S a a' → T b b') {l : List α} {l' : List β}
    (h : List.Forall₂ R l l') (hS : l.Pairwise S) : l'.Pairwise T := by
  induction h with
  | nil => exact .nil
  | @cons a b l l' hab hrest ih =>
    obtain ⟨ha, hl⟩ := List.pairwise_cons.mp hS
    refine List.pairwise_cons.mpr ⟨fun b' hb' => ?_, ih hl⟩
    obtain ⟨i, hi⟩ := List.mem_iff_getElem?.mp hb'
    obtain ⟨a', ha', hab'⟩ := exists_of_forall₂ hrest hi
    exact hST a a' b b' hab hab' (ha a' (List.mem_of_getElem? ha'))

/-- What a map returns, some element returned. -/
theorem mem_of_mapM {ε α β : Type} {f : α → Except ε β} {b : β} :
    ∀ {l : List α} {bs : List β}, l.mapM f = .ok bs → b ∈ bs → ∃ a ∈ l, f a = .ok b := by
  intro l
  induction l with
  | nil =>
    intro bs h hb
    cases h
    cases hb
  | cons a l ih =>
    intro bs h hmem
    obtain ⟨b', bs', hb', hbs', rfl⟩ := mapM_cons_eq_ok.mp h
    rcases List.mem_cons.mp hmem with rfl | hmem
    · exact ⟨a, List.mem_cons_self, hb'⟩
    · obtain ⟨a', ha', hval⟩ := ih hbs' hmem
      exact ⟨a', List.mem_cons_of_mem a ha', hval⟩

/-- What a prefix of a list takes is a prefix of what the list takes. -/
theorem takeWhile_isPrefix {α : Type*} (p : α → Bool) {l l' : List α} (h : l <+: l') :
    l.takeWhile p <+: l'.takeWhile p := by
  obtain ⟨t, rfl⟩ := h
  rw [List.takeWhile_append]
  split
  · exact (List.takeWhile_prefix p).trans (List.prefix_append _ _)
  · exact List.prefix_rfl

/-! ### Errors that are never raised -/

/-- The computation never raises an error that satisfies `bad`. -/
def Avoids {ε α : Type*} (bad : ε → Prop) (x : Except ε α) : Prop := ∀ e, x = .error e → ¬ bad e

section

universe u

variable {ε : Type*} {α β : Type u} {bad : ε → Prop}

@[simp] theorem avoids_ok {a : α} : Avoids bad (.ok a : Except ε α) := by
  intro e he
  cases he

@[simp] theorem avoids_pure {a : α} : Avoids bad (pure a : Except ε α) := avoids_ok

@[simp] theorem avoids_error {e : ε} : Avoids bad (.error e : Except ε α) ↔ ¬ bad e := by
  constructor
  · intro h
    exact h e rfl
  · rintro h _ ⟨⟩
    exact h

/-- A sequence avoids what both of its parts avoid. -/
@[simp] theorem avoids_bind {x : Except ε α} {f : α → Except ε β} :
    Avoids bad (x >>= f) ↔ Avoids bad x ∧ ∀ a, x = .ok a → Avoids bad (f a) := by
  cases x with
  | error e =>
    have hbind : (Except.error e : Except ε α) >>= f = .error e := rfl
    rw [hbind]
    simp
  | ok a =>
    rw [ok_bind]
    simp

@[simp] theorem avoids_map {f : α → β} {x : Except ε α} :
    Avoids bad (f <$> x) ↔ Avoids bad x := by
  cases x with
  | error e => exact avoids_error.trans avoids_error.symm
  | ok a => exact iff_of_true avoids_ok avoids_ok

@[simp] theorem avoids_ite {c : Prop} [Decidable c] {x y : Except ε α} :
    Avoids bad (if c then x else y) ↔ (c → Avoids bad x) ∧ (¬ c → Avoids bad y) := by
  by_cases h : c <;> simp [h]

@[simp] theorem avoids_dite {c : Prop} [Decidable c] {x : c → Except ε α} {y : ¬ c → Except ε α} :
    Avoids bad (if h : c then x h else y h) ↔ (∀ h, Avoids bad (x h)) ∧ ∀ h, Avoids bad (y h) := by
  by_cases h : c <;> simp [h]

/-- A computation that returns avoids everything. -/
theorem avoids_of_eq_ok {x : Except ε α} {a : α} (h : x = .ok a) : Avoids bad x := by
  rw [h]
  exact avoids_ok

end

/-- A fold avoids what every step avoids, under a property of the state and of the elements
that are left. -/
theorem avoids_foldlM {ε α β : Type} {bad : ε → Prop} {f : β → α → Except ε β}
    {P : β → List α → Prop} (hstep : ∀ b a l b', P b (a :: l) → f b a = .ok b' → P b' l)
    (havoid : ∀ b a l, P b (a :: l) → Avoids bad (f b a)) :
    ∀ (l : List α) (b : β), P b l → Avoids bad (l.foldlM f b) := by
  intro l
  induction l with
  | nil =>
    intro b _
    exact avoids_ok
  | cons a l ih =>
    intro b hb
    rw [List.foldlM_cons, avoids_bind]
    exact ⟨havoid b a l hb, fun b' hb' => ih b' (hstep b a l b' hb hb')⟩

/-- A raised failure is avoided when it is not bad. -/
@[simp] theorem avoids_unless {bad : Failure → Prop} {kind : FailureKind} {condition : Bool}
    {message : String} : Avoids bad (kind.unless condition message) ↔
      (condition = false → ¬ bad ⟨kind, message⟩) := by
  unfold FailureKind.unless FailureKind.raiseWith
  cases condition <;> simp

@[simp] theorem avoids_require {bad : Failure → Prop} {kind : FailureKind} {condition : Bool} :
    Avoids bad (kind.require condition) ↔
      (condition = false → ¬ bad ⟨kind, kind.defaultMessage⟩) :=
  avoids_unless

@[simp] theorem avoids_raiseWith {α : Type*} {bad : Failure → Prop} {kind : FailureKind}
    {message : String} : Avoids bad (kind.raiseWith message : Except Failure α) ↔
      ¬ bad ⟨kind, message⟩ := avoids_error

@[simp] theorem avoids_raise {α : Type*} {bad : Failure → Prop} {kind : FailureKind} :
    Avoids bad (kind.raise : Except Failure α) ↔ ¬ bad ⟨kind, kind.defaultMessage⟩ := avoids_error

end DryTrade
