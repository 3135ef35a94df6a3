import Mathlib.Tactic

/-!
# Programs under interference

A program works on a shared state by atomic actions.  Between two of its actions the
environment may change the state: other programs, users, the clock.  Each action carries the
point of the program it belongs to, and an environment is a relation that says, point by point,
which changes it may make right before the action.

## Main definitions

* `Program` — a program, with `action`, `read`, `raise` and `tryCatch` to build one.
* `Program.Runs` — the runs of a program in an environment.
* `Program.Traces` — the states and actions of a run that may stop anywhere.
* `RelyGuarantee`, `Program.wp` — what a program promises at each action, and the weakest
  condition under which it ends as asked.
* `Program.Returns` — the program returns, whatever the environment does.

## Main results

* `Program.wp_bind`, `Program.wp_tryCatch` — the rules of the condition.
* `Program.Returns.bind`, `Program.Returns.tryCatch` — the rules of a program that never raises.
* `Program.Runs.sound`, `Program.Traces.sound` — every run keeps the promise and ends as asked.
-/

namespace DryTrade

/-- A program over the states `σ`, whose actions stand at points `ι`. -/
inductive Program (σ ι ε α : Type)
  /-- It has returned or raised. -/
  | done (r : Except ε α)
  /-- It changes the state by `update` and goes on according to the state it found. -/
  | act (point : ι) (update : σ → σ) (next : σ → Program σ ι ε α)

namespace Program

variable {σ ι ε ε' α β γ : Type}

/-- Continue a program that returns. -/
def andThen (q : α → Program σ ι ε β) : Program σ ι ε α → Program σ ι ε β
  | .done (.ok a) => q a
  | .done (.error e) => .done (.error e)
  | .act point update next => .act point update fun s => andThen q (next s)

instance : Monad (Program σ ι ε) where
  pure a := .done (.ok a)
  bind p q := andThen q p

/-- Raise. -/
def raise (e : ε) : Program σ ι ε α := .done (.error e)

/-- Return or raise. -/
def ofExcept (r : Except ε α) : Program σ ι ε α := .done r

/-- One action that returns or raises. -/
def action (point : ι) (f : σ → Except ε α × σ) : Program σ ι ε α :=
  .act point (fun s => (f s).2) fun s => .done (f s).1

/-- Read the state. -/
def read (point : ι) (f : σ → Except ε α) : Program σ ι ε α :=
  .act point id fun s => .done (f s)

/-- `try: p; except: h`. -/
def tryCatch (h : ε → Program σ ι ε' α) : Program σ ι ε α → Program σ ι ε' α
  | .done (.ok a) => .done (.ok a)
  | .done (.error e) => h e
  | .act point update next => .act point update fun s => tryCatch h (next s)

/-- The runs of a program in an environment, from the state it starts in to the one it ends in. -/
inductive Runs (environment : ι → σ → σ → Prop) :
    Program σ ι ε α → σ → Except ε α → σ → Prop
  | done {r : Except ε α} {s : σ} : Runs environment (.done r) s r s
  | act {point : ι} {update : σ → σ} {next : σ → Program σ ι ε α} {s s' t : σ} {r : Except ε α}
      (hmove : environment point s s') (hrest : Runs environment (next s') (update s') r t) :
      Runs environment (.act point update next) s r t

/-- A run of a program that may stop before any of its actions: what is left of the program and
the state it stops in. -/
inductive Traces (environment : ι → σ → σ → Prop) :
    Program σ ι ε α → σ → Program σ ι ε α → σ → Prop
  | stop {p : Program σ ι ε α} {s : σ} : Traces environment p s p s
  | act {point : ι} {update : σ → σ} {next : σ → Program σ ι ε α} {s s' t : σ}
      {q : Program σ ι ε α} (hmove : environment point s s')
      (hrest : Traces environment (next s') (update s') q t) :
      Traces environment (.act point update next) s q t

end Program

/-- What a program may rely on before each of its actions, and what each action guarantees. -/
structure RelyGuarantee (σ ι : Type) where
  /-- The changes the environment may make before an action. -/
  rely : ι → σ → σ → Prop
  /-- The changes an action may make. -/
  guarantee : ι → σ → σ → Prop

namespace Program

variable {σ ι ε ε' α β γ : Type} {c : RelyGuarantee σ ι}

/-- The weakest condition under which every action of the program keeps the guarantee and the
program ends as asked. -/
def wp (c : RelyGuarantee σ ι) (Q : Except ε α → σ → Prop) : Program σ ι ε α → σ → Prop
  | .done r, s => Q r s
  | .act point update next, s => ∀ s', c.rely point s s' →
      c.guarantee point s' (update s') ∧ wp c Q (next s') (update s')

variable {Q Q' : Except ε α → σ → Prop} {s : σ}

theorem wp_done {r : Except ε α} : wp c Q (.done r) s ↔ Q r s := Iff.rfl

@[simp]
theorem wp_pure {a : α} : wp c Q (pure a : Program σ ι ε α) s ↔ Q (.ok a) s := Iff.rfl

@[simp]
theorem wp_raise {e : ε} : wp c Q (raise e : Program σ ι ε α) s ↔ Q (.error e) s := Iff.rfl

@[simp]
theorem wp_ofExcept {r : Except ε α} : wp c Q (ofExcept r : Program σ ι ε α) s ↔ Q r s := Iff.rfl

theorem wp_action {point : ι} {f : σ → Except ε α × σ} :
    wp c Q (action point f) s ↔ ∀ s', c.rely point s s' →
      c.guarantee point s' (f s').2 ∧ Q (f s').1 (f s').2 := Iff.rfl

theorem wp_read {point : ι} {f : σ → Except ε α} :
    wp c Q (read point f) s ↔ ∀ s', c.rely point s s' →
      c.guarantee point s' s' ∧ Q (f s') s' := Iff.rfl

/-- A weaker demand on the end gives a weaker condition on the start. -/
theorem wp.mono {p : Program σ ι ε α} (h : wp c Q p s) (hQ : ∀ r t, Q r t → Q' r t) :
    wp c Q' p s := by
  induction p generalizing s with
  | done r => exact hQ r s h
  | act point update next ih =>
    intro s' hmove
    obtain ⟨hguarantee, hrest⟩ := h s' hmove
    exact ⟨hguarantee, ih s' hrest⟩

/-- A sequence meets the condition when its first part ends where the second may start. -/
theorem wp_bind {p : Program σ ι ε β} {q : β → Program σ ι ε α} :
    wp c Q (p >>= q) s ↔ wp c (fun r t => match r with
      | .ok b => wp c Q (q b) t
      | .error e => Q (.error e) t) p s := by
  change wp c Q (andThen q p) s ↔ _
  induction p generalizing s with
  | done r => cases r <;> exact Iff.rfl
  | act point update next ih =>
    refine forall_congr' fun s' => imp_congr_right fun _ => and_congr_right fun _ => ?_
    exact ih s'

/-- The handler starts where the program raises. -/
theorem wp_tryCatch {p : Program σ ι ε' α} {h : ε' → Program σ ι ε α} :
    wp c Q (tryCatch h p) s ↔ wp c (fun r t => match r with
      | .ok a => Q (.ok a) t
      | .error e => wp c Q (h e) t) p s := by
  induction p generalizing s with
  | done r => cases r <;> exact Iff.rfl
  | act point update next ih =>
    refine forall_congr' fun s' => imp_congr_right fun _ => and_congr_right fun _ => ?_
    exact ih s'

/-- The rule of the sequence, with the state between the two parts named. -/
theorem wp.bind {p : Program σ ι ε β} {q : β → Program σ ι ε α} {M : β → σ → Prop}
    (h : wp c (fun r t => ∃ b, r = .ok b ∧ M b t) p s)
    (hq : ∀ b t, M b t → wp c Q (q b) t) : wp c Q (p >>= q) s := by
  refine wp_bind.mpr (h.mono fun r t hr => ?_)
  obtain ⟨b, rfl, hb⟩ := hr
  exact hq b t hb

/-- **A run ends as asked.** -/
theorem Runs.sound {p : Program σ ι ε α} {r : Except ε α} {t : σ} (h : wp c Q p s)
    (hrun : Runs c.rely p s r t) : Q r t := by
  induction hrun with
  | done => exact h
  | act hmove _ ih => exact ih (h _ hmove).2

/-- **A run that stops anywhere still has the rest of its condition.** -/
theorem Traces.sound {p q : Program σ ι ε α} {t : σ} (h : wp c Q p s)
    (hrun : Traces c.rely p s q t) : wp c Q q t := by
  induction hrun with
  | stop => exact h
  | act hmove _ ih => exact ih (h _ hmove).2

/-- Every environment that moves less has fewer runs. -/
theorem Runs.imp {environment environment' : ι → σ → σ → Prop} {p : Program σ ι ε α}
    {r : Except ε α} {t : σ} (hrun : Runs environment p s r t)
    (h : ∀ point s s', environment point s s' → environment' point s s') :
    Runs environment' p s r t := by
  induction hrun with
  | done => exact .done
  | act hmove _ ih => exact .act (h _ _ _ hmove) ih

/-! ### Programs that return -/

/-- The program returns, whatever the environment does, and ends as asked. -/
def Returns (c : RelyGuarantee σ ι) (p : Program σ ι ε α) (s : σ) (M : α → σ → Prop) : Prop :=
  wp c (fun r t => ∃ a, r = .ok a ∧ M a t) p s

namespace Returns

variable {M M' : α → σ → Prop} {N : β → σ → Prop} {p : Program σ ι ε α}

theorem pure {a : α} (h : M a s) : Returns c (Pure.pure a : Program σ ι ε α) s M :=
  ⟨a, rfl, h⟩

theorem ofExcept {r : Except ε α} {a : α} (hr : r = .ok a) (h : M a s) :
    Returns c (Program.ofExcept r) s M :=
  ⟨a, hr, h⟩

theorem mono (h : Returns c p s M) (himp : ∀ a t, M a t → M' a t) : Returns c p s M' :=
  wp.mono h fun _ _ ⟨a, hr, ha⟩ => ⟨a, hr, himp a _ ha⟩

/-- The rule of the sequence. -/
theorem bind {q : α → Program σ ι ε β} (h : Returns c p s M)
    (hq : ∀ a t, M a t → Returns c (q a) t N) : Returns c (p >>= q) s N :=
  wp.bind h hq

/-- The rule of `<$>`. -/
theorem map {f : α → β} (h : Returns c p s fun a t => N (f a) t) : Returns c (f <$> p) s N :=
  h.bind (q := fun a => Pure.pure (f a)) fun _ _ ha => .pure ha

/-- A program that returns never meets its handler. -/
theorem tryCatch {h' : ε → Program σ ι ε' α} {p : Program σ ι ε α} (h : Returns c p s M) :
    Returns c (Program.tryCatch h' p) s M := by
  refine wp_tryCatch.mpr (wp.mono h fun r t hr => ?_)
  obtain ⟨a, rfl, ha⟩ := hr
  exact ⟨a, rfl, ha⟩

/-- One action. -/
theorem action {point : ι} {f : σ → Except ε α × σ}
    (h : ∀ s', c.rely point s s' → c.guarantee point s' (f s').2 ∧
      ∃ a, (f s').1 = .ok a ∧ M a (f s').2) : Returns c (Program.action point f) s M := h

/-- One read. -/
theorem read {point : ι} {f : σ → Except ε α}
    (h : ∀ s', c.rely point s s' → c.guarantee point s' s' ∧ ∃ a, f s' = .ok a ∧ M a s') :
    Returns c (Program.read point f) s M := h

/-- **Every run of a program that returns does return.** -/
theorem sound {r : Except ε α} {t : σ} (h : Returns c p s M) (hrun : Runs c.rely p s r t) :
    ∃ a, r = .ok a ∧ M a t :=
  Runs.sound (Q := fun r t => ∃ a, r = .ok a ∧ M a t) h hrun

end Returns

end Program
end DryTrade
