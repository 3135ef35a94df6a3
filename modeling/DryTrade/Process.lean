import Mathlib.Tactic

/-!
# Processes under faults

A process works on a shared state, one operation after the other.  Each operation
goes through, is cut short by a crash of the whole process, or raises before or
after it took effect; a list of faults says which, operation by operation, and
operations past its end go through.  What a run does is thus a function of the
state it starts from and of the faults it meets.

## Main definitions

* `Process` — a process, with `act`, `read`, `forEach`, `onRaise` and `orElse` to build one.
* `Process.Meets` — a triple over every state visited, the result and the exception.
* `Process.Keeps` — a triple whose invariant also holds wherever the process raises.
* `Process.Straight` — a process that performs a fixed list of operations.
* `Process.Takes` — a process that performs a fixed number of operations when it returns.
* `raisedAfter` — how many operations took effect when one raised.

## Main results

* `Process.Meets.bind`, `Process.Meets.act`, `Process.Meets.forEach`,
  `Process.Meets.onRaise` — the rules of the triple.
* `Process.straight_final` — what a straight process leaves behind.
-/

namespace DryTrade

/-- What happens to one operation. -/
inductive Fault
  /-- It goes through. -/
  | pass
  /-- The process dies before it. -/
  | crash
  /-- It raises and has no effect. -/
  | raiseBefore
  /-- It takes effect and raises. -/
  | raiseAfter
  deriving DecidableEq, Repr

/-- How a run ends. -/
inductive Outcome (ε α : Type)
  | returned (a : α)
  | raised (e : ε)
  | crashed
  deriving DecidableEq, Repr

/-- A finished run. -/
structure Ran (σ ε α : Type) where
  outcome : Outcome ε α
  /-- The states after each operation that took effect, oldest first. -/
  visited : List σ
  /-- The faults that were not met. -/
  faults : List Fault

variable {σ ε α β : Type}

/-- The state a run that started from `s` leaves. -/
def Ran.final (r : Ran σ ε α) (s : σ) : σ := r.visited.getLastD s

/-- What holds of the start and of every visited state holds of what the run leaves. -/
theorem Ran.final_of_visited {r : Ran σ ε α} {P : σ → Prop} {s : σ} (hs : P s)
    (h : ∀ t ∈ r.visited, P t) : P (r.final s) := by
  rcases List.eq_nil_or_concat r.visited with hnil | ⟨l, t, hl⟩
  · rw [Ran.final, hnil]
    exact hs
  · rw [Ran.final, hl, List.concat_eq_append, List.getLastD_concat]
    exact h t (by rw [hl]; simp)

/-- What holds of one visited state and of every later one holds of what the run leaves. -/
theorem Ran.final_of_visited_append {r : Ran σ ε α} {P : σ → Prop} {s t : σ}
    {before after : List σ} (hvisited : r.visited = before ++ t :: after) (ht : P t)
    (h : ∀ x ∈ after, P x) : P (r.final s) := by
  rw [Ran.final, hvisited, List.getLastD_eq_getLast?, List.getLast?_append_cons,
    List.getLast?_eq_some_getLast (List.cons_ne_nil t after), Option.getD_some]
  have hall : ∀ x ∈ t :: after, P x := by
    rintro x (- | ⟨-, hx⟩)
    · exact ht
    · exact h x hx
  exact hall _ (List.getLast_mem _)

/-- A process over the states `σ`. -/
def Process (σ ε α : Type) : Type := σ → List Fault → Ran σ ε α

/-- A run continued from where another ended. -/
theorem Ran.final_append (outcome : Outcome ε β) (r : Ran σ ε α) (visited : List σ)
    (fs : List Fault) (s : σ) :
    (⟨outcome, r.visited ++ visited, fs⟩ : Ran σ ε β).final s = visited.getLastD (r.final s) := by
  rw [Ran.final, Ran.final, List.getLastD_eq_getLast?, List.getLastD_eq_getLast?,
    List.getLastD_eq_getLast?, List.getLast?_append]
  cases visited.getLast? <;> rfl

/-- How a handler that raises again ends: with its own exception, if it raised one. -/
def Outcome.reraise (e : ε) : Outcome ε Unit → Outcome ε α
  | .returned _ => .raised e
  | .raised e' => .raised e'
  | .crashed => .crashed

namespace Process

/-- Continue a run. -/
def andThen (p : Process σ ε α) (q : α → Process σ ε β) : Process σ ε β := fun s fs =>
  let r := p s fs
  match r.outcome with
  | .returned a =>
      let r' := q a (r.final s) r.faults
      ⟨r'.outcome, r.visited ++ r'.visited, r'.faults⟩
  | .raised e => ⟨.raised e, r.visited, r.faults⟩
  | .crashed => ⟨.crashed, r.visited, r.faults⟩

instance : Monad (Process σ ε) where
  pure a := fun _ fs => ⟨.returned a, [], fs⟩
  bind := andThen

/-- The current state. -/
def read : Process σ ε σ := fun s fs => ⟨.returned s, [], fs⟩

/-- Raise. -/
def raise (e : ε) : Process σ ε α := fun _ fs => ⟨.raised e, [], fs⟩

/-- One operation; it raises `e` when it fails. -/
def act (e : ε) (f : σ → Option σ) : Process σ ε Unit := fun s fs =>
  match fs, f s with
  | .crash :: fs, _ => ⟨.crashed, [], fs⟩
  | .raiseBefore :: fs, _ => ⟨.raised e, [], fs⟩
  | .raiseAfter :: fs, some t => ⟨.raised e, [t], fs⟩
  | fs, some t => ⟨.returned (), [t], fs.tail⟩
  | fs, none => ⟨.raised e, [], fs.tail⟩

/-- `try: p; except Exception as e: h(e); raise`. -/
def onRaise (p : Process σ ε α) (h : ε → Process σ ε Unit) : Process σ ε α := fun s fs =>
  let r := p s fs
  match r.outcome with
  | .raised e =>
      let r' := h e (r.final s) r.faults
      ⟨r'.outcome.reraise e, r.visited ++ r'.visited, r'.faults⟩
  | _ => r

/-- `try: p; except Exception as e: h(e)`. -/
def orElse (p : Process σ ε α) (h : ε → Process σ ε α) : Process σ ε α := fun s fs =>
  let r := p s fs
  match r.outcome with
  | .raised e =>
      let r' := h e (r.final s) r.faults
      ⟨r'.outcome, r.visited ++ r'.visited, r'.faults⟩
  | _ => r

/-- `for x in xs: body(x)`. -/
def forEach (xs : List β) (body : β → Process σ ε Unit) : Process σ ε Unit :=
  match xs with
  | [] => pure ()
  | x :: rest => andThen (body x) fun _ => forEach rest body

theorem read_bind_apply (q : σ → Process σ ε β) (s : σ) (fs : List Fault) :
    (Process.read >>= q) s fs = q s s fs := rfl

/-! ### Triples -/

/-- From a state satisfying `P`, meeting faults in `A` only, `p` visits states satisfying `I`
only, returns into `Q` and raises into `R`. -/
def Meets (A : Fault → Prop) (P : σ → Prop) (p : Process σ ε α) (I : σ → Prop)
    (Q : α → σ → Prop) (R : ε → σ → Prop) : Prop :=
  ∀ s fs, P s → (∀ f ∈ fs, A f) →
    (∀ f ∈ (p s fs).faults, A f) ∧ (∀ t ∈ (p s fs).visited, I t) ∧
      match (p s fs).outcome with
      | .returned a => Q a ((p s fs).final s)
      | .raised e => R e ((p s fs).final s)
      | .crashed => A .crash

section

variable {A : Fault → Prop} {P P' : σ → Prop} {I I' : σ → Prop} {Q Q' : α → σ → Prop}
  {R R' : ε → σ → Prop} {p : Process σ ε α}

theorem Meets.weaken (h : Meets A P p I Q R) (hP : ∀ s, P' s → P s) (hI : ∀ s, I s → I' s)
    (hQ : ∀ a s, Q a s → Q' a s) (hR : ∀ e s, R e s → R' e s) : Meets A P' p I' Q' R' := by
  intro s fs hs hfs
  obtain ⟨hleft, hvisited, hend⟩ := h s fs (hP s hs) hfs
  refine ⟨hleft, fun t ht => hI t (hvisited t ht), ?_⟩
  cases hr : (p s fs).outcome with
  | returned a => rw [hr] at hend; exact hQ a _ hend
  | raised e => rw [hr] at hend; exact hR e _ hend
  | crashed => rw [hr] at hend; exact hend

theorem Meets.pre (h : Meets A P p I Q R) (hP : ∀ s, P' s → P s) : Meets A P' p I Q R :=
  h.weaken hP (fun _ h => h) (fun _ _ h => h) fun _ _ h => h

theorem Meets.post (h : Meets A P p I Q R) (hQ : ∀ a s, Q a s → Q' a s) : Meets A P p I Q' R :=
  h.weaken (fun _ h => h) (fun _ h => h) hQ fun _ _ h => h

/-- What is true of every process. -/
theorem Meets.any (P : σ → Prop) (p : Process σ ε α) :
    Meets (fun _ => True) P p (fun _ => True) (fun _ _ => True) fun _ _ => True := by
  intro s fs _ _
  refine ⟨fun _ _ => trivial, fun _ _ => trivial, ?_⟩
  cases (p s fs).outcome <;> trivial

/-- A process that cannot return into anything. -/
theorem Meets.ne_returned (h : Meets A P p I (fun _ _ => False) R) {s : σ} {fs : List Fault}
    (hs : P s) (hfs : ∀ f ∈ fs, A f) (a : α) : (p s fs).outcome ≠ .returned a := by
  intro hreturned
  obtain ⟨-, -, hend⟩ := h s fs hs hfs
  rw [hreturned] at hend
  exact hend

/-- A process that cannot raise into anything. -/
theorem Meets.ne_raised (h : Meets A P p I Q fun _ _ => False) {s : σ} {fs : List Fault}
    (hs : P s) (hfs : ∀ f ∈ fs, A f) (e : ε) : (p s fs).outcome ≠ .raised e := by
  intro hraised
  obtain ⟨-, -, hend⟩ := h s fs hs hfs
  rw [hraised] at hend
  exact hend

/-- From every state that satisfies the precondition. -/
theorem Meets.of_eq (h : ∀ t, P t → Meets A (fun s => s = t) p I Q R) : Meets A P p I Q R :=
  fun s fs hs hfs => h s hs s fs rfl hfs

/-- From either of two preconditions. -/
theorem Meets.or (h : Meets A P p I Q R) (h' : Meets A P' p I Q R) :
    Meets A (fun s => P s ∨ P' s) p I Q R :=
  fun s fs hs hfs => hs.elim (fun hs => h s fs hs hfs) fun hs => h' s fs hs hfs

theorem Meets.pure {a : α} (h : ∀ s, P s → Q a s) :
    Meets A P (Pure.pure a : Process σ ε α) I Q R :=
  fun s _ hs hfs => ⟨hfs, fun _ ht => absurd ht List.not_mem_nil, h s hs⟩

theorem Meets.raise {e : ε} (h : ∀ s, P s → R e s) :
    Meets A P (Process.raise e : Process σ ε α) I Q R :=
  fun s _ hs hfs => ⟨hfs, fun _ ht => absurd ht List.not_mem_nil, h s hs⟩

theorem Meets.read {Q : σ → σ → Prop} (h : ∀ s, P s → Q s s) :
    Meets A P (Process.read : Process σ ε σ) I Q R :=
  fun s _ hs hfs => ⟨hfs, fun _ ht => absurd ht List.not_mem_nil, h s hs⟩

/-- **Sequencing.** -/
theorem Meets.bind {M : α → σ → Prop} {q : α → Process σ ε β} {Q : β → σ → Prop}
    (hp : Meets A P p I M R) (hq : ∀ a, Meets A (M a) (q a) I Q R) :
    Meets A P (p >>= q) I Q R := by
  intro s fs hs hfs
  obtain ⟨hleft, hvisited, hend⟩ := hp s fs hs hfs
  change (∀ f ∈ (andThen p q s fs).faults, A f) ∧ (∀ t ∈ (andThen p q s fs).visited, I t) ∧
    match (andThen p q s fs).outcome with
    | .returned b => Q b ((andThen p q s fs).final s)
    | .raised e => R e ((andThen p q s fs).final s)
    | .crashed => A .crash
  unfold andThen
  cases hr : (p s fs).outcome with
  | returned a =>
    rw [hr] at hend
    obtain ⟨hleft', hvisited', hend'⟩ := hq a _ _ hend hleft
    simp only [hr, Ran.final_append]
    refine ⟨hleft', fun t ht => ?_, hend'⟩
    rcases List.mem_append.mp ht with ht | ht
    · exact hvisited t ht
    · exact hvisited' t ht
  | raised e =>
    rw [hr] at hend
    simp only [hr]
    exact ⟨hleft, hvisited, hend⟩
  | crashed =>
    rw [hr] at hend
    simp only [hr]
    exact ⟨hleft, hvisited, hend⟩

/-- **One operation.** -/
theorem Meets.act {e : ε} {f : σ → Option σ} {Q : Unit → σ → Prop}
    (hstep : ∀ s t, P s → f s = some t → I t ∧ Q () t)
    (hbefore : ∀ s, P s → (A .raiseBefore ∨ f s = none) → R e s)
    (hafter : A .raiseAfter → ∀ s t, P s → f s = some t → R e t) :
    Meets A P (Process.act e f) I Q R := by
  intro s fs hs hfs
  have htail : ∀ x ∈ fs.tail, A x := fun x hx => hfs x (List.mem_of_mem_tail hx)
  cases hf : f s with
  | none =>
    cases fs with
    | nil => simpa [Process.act, hf, Ran.final] using hbefore s hs (.inr hf)
    | cons x rest =>
      cases x <;> simp only [Process.act, hf, Ran.final]
      · exact ⟨htail, by simp, hbefore s hs (.inr hf)⟩
      · exact ⟨htail, by simp, hfs _ List.mem_cons_self⟩
      · exact ⟨htail, by simp, hbefore s hs (.inr hf)⟩
      · exact ⟨htail, by simp, hbefore s hs (.inr hf)⟩
  | some t =>
    cases fs with
    | nil => simpa [Process.act, hf, Ran.final] using hstep s t hs hf
    | cons x rest =>
      cases x <;> simp only [Process.act, hf, Ran.final]
      · exact ⟨htail, by simpa using (hstep s t hs hf).1, (hstep s t hs hf).2⟩
      · exact ⟨htail, by simp, hfs _ List.mem_cons_self⟩
      · exact ⟨htail, by simp, hbefore s hs (.inl (hfs _ List.mem_cons_self))⟩
      · exact ⟨htail, by simpa using (hstep s t hs hf).1,
          hafter (hfs _ List.mem_cons_self) s t hs hf⟩

/-- **A loop**, with an invariant over what it has gone through. -/
theorem Meets.forEach {xs : List β} {body : β → Process σ ε Unit} {J : List β → σ → Prop}
    (hbody : ∀ done x rest, xs = done ++ x :: rest →
      Meets A (J done) (body x) I (fun _ => J (done ++ [x])) R) :
    Meets A (J []) (Process.forEach xs body) I (fun _ => J xs) R := by
  suffices h : ∀ (rest done : List β), xs = done ++ rest →
      Meets A (J done) (Process.forEach rest body) I (fun _ => J xs) R from h xs [] rfl
  intro rest
  induction rest with
  | nil =>
    intro done hdone
    rw [List.append_nil] at hdone
    exact hdone ▸ Meets.pure fun _ hs => hs
  | cons x rest ih =>
    intro done hdone
    refine Meets.bind (hbody done x rest hdone) fun _ => ih (done ++ [x]) ?_
    rw [hdone, List.append_assoc, List.singleton_append]

/-- **A handler that raises again.** -/
theorem Meets.onRaise {M : ε → σ → Prop} {h : ε → Process σ ε Unit}
    (hp : Meets A P p I Q M) (hh : ∀ e, Meets A (M e) (h e) I (fun _ => R e) R) :
    Meets A P (Process.onRaise p h) I Q R := by
  intro s fs hs hfs
  obtain ⟨hleft, hvisited, hend⟩ := hp s fs hs hfs
  unfold Process.onRaise
  cases hr : (p s fs).outcome with
  | returned a =>
    rw [hr] at hend
    simp only [hr]
    exact ⟨hleft, hvisited, hend⟩
  | raised e =>
    rw [hr] at hend
    obtain ⟨hleft', hvisited', hend'⟩ := hh e _ _ hend hleft
    simp only [hr, Ran.final_append]
    refine ⟨hleft', fun t ht => ?_, ?_⟩
    · rcases List.mem_append.mp ht with ht | ht
      · exact hvisited t ht
      · exact hvisited' t ht
    · revert hend'
      cases (h e ((p s fs).final s) (p s fs).faults).outcome with
      | returned u => exact id
      | raised e' => exact id
      | crashed => exact id
  | crashed =>
    rw [hr] at hend
    simp only [hr]
    exact ⟨hleft, hvisited, hend⟩

/-- **A handler that does not raise again.** -/
theorem Meets.orElse {M : ε → σ → Prop} {h : ε → Process σ ε α}
    (hp : Meets A P p I Q M) (hh : ∀ e, Meets A (M e) (h e) I Q R) :
    Meets A P (Process.orElse p h) I Q R := by
  intro s fs hs hfs
  obtain ⟨hleft, hvisited, hend⟩ := hp s fs hs hfs
  unfold Process.orElse
  cases hr : (p s fs).outcome with
  | returned a =>
    rw [hr] at hend
    simp only [hr]
    exact ⟨hleft, hvisited, hend⟩
  | raised e =>
    rw [hr] at hend
    obtain ⟨hleft', hvisited', hend'⟩ := hh e _ _ hend hleft
    simp only [hr, Ran.final_append]
    refine ⟨hleft', fun t ht => ?_, hend'⟩
    rcases List.mem_append.mp ht with ht | ht
    · exact hvisited t ht
    · exact hvisited' t ht
  | crashed =>
    rw [hr] at hend
    simp only [hr]
    exact ⟨hleft, hvisited, hend⟩

/-- A run that never returns nor raises ended at its start or at a visited state. -/
theorem Meets.final_of_pre (h : Meets A P p I Q R) (hI : ∀ s, P s → I s) {s : σ}
    {fs : List Fault} (hs : P s) (hfs : ∀ f ∈ fs, A f) : I ((p s fs).final s) :=
  Ran.final_of_visited (hI s hs) (h s fs hs hfs).2.1

end

/-! ### Assertions that every step keeps -/

/-- Some operation may raise. -/
def CanRaise (A : Fault → Prop) : Prop := A .raiseBefore ∨ A .raiseAfter

/-- A triple whose invariant also holds wherever the process raises, which it does only if
operations may. -/
abbrev Keeps (A : Fault → Prop) (P : σ → Prop) (p : Process σ ε α) (I : σ → Prop)
    (Q : α → σ → Prop) : Prop :=
  Meets A P p I Q fun _ s => I s ∧ CanRaise A

section

variable {A : Fault → Prop} {P P' I I' : σ → Prop} {Q Q' : α → σ → Prop} {p : Process σ ε α}

theorem Keeps.weaken (h : Keeps A P p I Q) (hP : ∀ s, P' s → P s) (hI : ∀ s, I s → I' s)
    (hQ : ∀ a s, Q a s → Q' a s) : Keeps A P' p I' Q' :=
  Meets.weaken h hP hI hQ fun _ s hs => ⟨hI s hs.1, hs.2⟩

/-- One operation from a state that satisfies the invariant. -/
theorem Keeps.act {e : ε} {f : σ → Option σ} {Q : Unit → σ → Prop} (hP : ∀ s, P s → I s)
    (hf : ∀ s, P s → ∃ t, f s = some t ∧ I t ∧ Q () t) : Keeps A P (Process.act e f) I Q := by
  refine Meets.act (fun s t hs ht => ?_) (fun s hs h => ?_) fun hA s t hs ht => ?_
  · obtain ⟨t', ht', hI, hQ⟩ := hf s hs
    rw [ht] at ht'
    cases ht'
    exact ⟨hI, hQ⟩
  · refine ⟨hP s hs, h.elim .inl fun hnone => ?_⟩
    obtain ⟨t', ht', -⟩ := hf s hs
    rw [hnone] at ht'
    cases ht'
  · obtain ⟨t', ht', hI, -⟩ := hf s hs
    rw [ht] at ht'
    cases ht'
    exact ⟨hI, .inr hA⟩

/-- A handler that raises again. -/
theorem Keeps.onRaise {h : ε → Process σ ε Unit} (hp : Keeps A P p I Q)
    (hh : CanRaise A → ∀ e, Keeps A I (h e) I fun _ => I) :
    Keeps A P (Process.onRaise p h) I Q := by
  by_cases hA : CanRaise A
  · exact Meets.onRaise (M := fun _ s => I s ∧ CanRaise A) hp fun e =>
      Meets.weaken (hh hA e) (fun _ hs => hs.1) (fun _ hs => hs) (fun _ _ hs => ⟨hs, hA⟩)
        fun _ _ hs => hs
  · exact Meets.onRaise (M := fun _ _ => False) (Meets.weaken hp (fun _ hs => hs)
      (fun _ hs => hs) (fun _ _ hs => hs) fun _ _ hs => absurd hs.2 hA) fun e s _ hs => hs.elim

/-- A handler that does not raise again. -/
theorem Keeps.orElse {h : ε → Process σ ε α} (hp : Keeps A P p I Q)
    (hh : CanRaise A → ∀ e, Keeps A I (h e) I Q) : Keeps A P (Process.orElse p h) I Q := by
  by_cases hA : CanRaise A
  · exact Meets.orElse hp fun e =>
      Keeps.weaken (hh hA e) (fun _ hs => hs.1) (fun _ hs => hs) fun _ _ hs => hs
  · exact Meets.orElse (M := fun _ _ => False) (Meets.weaken hp (fun _ hs => hs)
      (fun _ hs => hs) (fun _ _ hs => hs) fun _ _ hs => absurd hs.2 hA) fun e s _ hs => hs.elim

end

/-- No fault at all. -/
def NoFault (_ : Fault) : Prop := False

/-- A triple without faults: the run returns. -/
theorem Meets.noFault {P I : σ → Prop} {Q : α → σ → Prop} {R : ε → σ → Prop}
    {p : Process σ ε α} (h : Meets NoFault P p I Q R) (hR : ∀ e s, ¬ R e s) {s : σ} (hs : P s) :
    ∃ a, (p s []).outcome = .returned a ∧ Q a ((p s []).final s) := by
  obtain ⟨-, -, hend⟩ := h s [] hs (by simp)
  cases hr : (p s []).outcome with
  | returned a => rw [hr] at hend; exact ⟨a, rfl, hend⟩
  | raised e => rw [hr] at hend; exact absurd hend (hR e _)
  | crashed => rw [hr] at hend; exact hend.elim

theorem Keeps.noFault {P I : σ → Prop} {Q : α → σ → Prop} {p : Process σ ε α}
    (h : Keeps NoFault P p I Q) {s : σ} (hs : P s) :
    ∃ a, (p s []).outcome = .returned a ∧ Q a ((p s []).final s) :=
  Meets.noFault h (fun _ _ hR => hR.2.elim id id) hs

/-! ### Straight processes -/

theorem andThen_assoc {γ : Type} (p : Process σ ε α) (q : α → Process σ ε β)
    (r : β → Process σ ε γ) :
    andThen (andThen p q) r = andThen p fun a => andThen (q a) r := by
  funext s fs
  unfold andThen
  cases hp : (p s fs).outcome with
  | returned a =>
    simp only [hp]
    cases hq : (q a ((p s fs).final s) (p s fs).faults).outcome with
    | returned b => simp only [Ran.final_append, List.append_assoc]; rfl
    | raised e => simp only
    | crashed => simp only
  | raised e => simp only [hp]
  | crashed => simp only [hp]

/-- A run that went on after its first part returned. -/
theorem andThen_of_returned {p : Process σ ε α} {q : α → Process σ ε β} {s : σ} {fs : List Fault}
    {a : α} (h : (p s fs).outcome = .returned a) :
    (andThen p q s fs).outcome = (q a ((p s fs).final s) (p s fs).faults).outcome ∧
      (andThen p q s fs).final s =
        (q a ((p s fs).final s) (p s fs).faults).final ((p s fs).final s) ∧
      (andThen p q s fs).faults = (q a ((p s fs).final s) (p s fs).faults).faults := by
  unfold andThen
  simp only [h, Ran.final_append, true_and, and_true]
  rfl

theorem andThen_returned {p : Process σ ε α} {q : α → Process σ ε β} {s : σ} {fs : List Fault}
    {a : α} (h : (p s fs).outcome = .returned a) :
    andThen p q s fs = ⟨(q a ((p s fs).final s) (p s fs).faults).outcome,
      (p s fs).visited ++ (q a ((p s fs).final s) (p s fs).faults).visited,
      (q a ((p s fs).final s) (p s fs).faults).faults⟩ := by
  unfold andThen
  simp only [h]

theorem andThen_crashed {p : Process σ ε α} {q : α → Process σ ε β} {s : σ} {fs : List Fault}
    (h : (p s fs).outcome = .crashed) :
    andThen p q s fs = ⟨.crashed, (p s fs).visited, (p s fs).faults⟩ := by
  unfold andThen
  simp only [h]

theorem andThen_raised {p : Process σ ε α} {q : α → Process σ ε β} {s : σ} {fs : List Fault}
    {e : ε} (h : (p s fs).outcome = .raised e) :
    andThen p q s fs = ⟨.raised e, (p s fs).visited, (p s fs).faults⟩ := by
  unfold andThen
  simp only [h]

/-- A handler has no part in a run that does not raise. -/
theorem onRaise_of_not_raised {p : Process σ ε α} {h : ε → Process σ ε Unit} {s : σ}
    {fs : List Fault} (hp : ∀ e, (p s fs).outcome ≠ .raised e) :
    onRaise p h s fs = p s fs := by
  unfold onRaise
  cases hr : (p s fs).outcome with
  | returned a => simp only [hr]
  | raised e => exact absurd hr (hp e)
  | crashed => simp only [hr]

theorem onRaise_raised {p : Process σ ε α} {h : ε → Process σ ε Unit} {s : σ} {fs : List Fault}
    {e : ε} (hp : (p s fs).outcome = .raised e) :
    onRaise p h s fs = ⟨(h e ((p s fs).final s) (p s fs).faults).outcome.reraise e,
      (p s fs).visited ++ (h e ((p s fs).final s) (p s fs).faults).visited,
      (h e ((p s fs).final s) (p s fs).faults).faults⟩ := by
  unfold onRaise
  simp only [hp]

theorem orElse_raised {p : Process σ ε α} {h : ε → Process σ ε α} {s : σ} {fs : List Fault}
    {e : ε} (hp : (p s fs).outcome = .raised e) :
    orElse p h s fs = ⟨(h e ((p s fs).final s) (p s fs).faults).outcome,
      (p s fs).visited ++ (h e ((p s fs).final s) (p s fs).faults).visited,
      (h e ((p s fs).final s) (p s fs).faults).faults⟩ := by
  unfold orElse
  simp only [hp]

theorem orElse_of_not_raised {p : Process σ ε α} {h : ε → Process σ ε α} {s : σ}
    {fs : List Fault} (hp : ∀ e, (p s fs).outcome ≠ .raised e) :
    orElse p h s fs = p s fs := by
  unfold orElse
  cases hr : (p s fs).outcome with
  | returned a => simp only [hr]
  | raised e => exact absurd hr (hp e)
  | crashed => simp only [hr]

theorem pure_andThen (a : α) (q : α → Process σ ε β) : andThen (Pure.pure a) q = q a := rfl

/-- Perform a list of operations that cannot fail by themselves. -/
def runAll (e : ε) (ops : List (σ → σ)) : Process σ ε Unit :=
  forEach ops fun op => act e (some ∘ op)

/-- The effect of a list of operations. -/
def applyAll (ops : List (σ → σ)) (s : σ) : σ := ops.foldl (fun t op => op t) s

theorem applyAll_append (ops ops' : List (σ → σ)) (s : σ) :
    applyAll (ops ++ ops') s = applyAll ops' (applyAll ops s) := List.foldl_append

/-- What every operation keeps, the list keeps. -/
theorem applyAll_keeps {P : σ → Prop} (ops : List (σ → σ)) (h : ∀ op ∈ ops, ∀ s, P s → P (op s))
    (s : σ) (hs : P s) : P (applyAll ops s) := by
  induction ops generalizing s with
  | nil => exact hs
  | cons op ops ih =>
    exact ih (fun op' hop' => h op' (List.mem_cons_of_mem op hop')) _
      (h op List.mem_cons_self s hs)

theorem forEach_append (xs ys : List β) (body : β → Process σ ε Unit) :
    forEach (xs ++ ys) body = andThen (forEach xs body) fun _ => forEach ys body := by
  induction xs with
  | nil => rfl
  | cons x rest ih =>
    change andThen (body x) (fun _ => forEach (rest ++ ys) body) = _
    rw [ih]
    exact (andThen_assoc (body x) (fun _ => forEach rest body) fun _ => forEach ys body).symm

end Process

/-- How many operations took effect when one of the first `n` raised; `none` if none did. -/
def raisedAfter : ℕ → List Fault → Option ℕ
  | 0, _ => none
  | _ + 1, [] => none
  | n + 1, .pass :: fs => (raisedAfter n fs).map (· + 1)
  | _ + 1, .crash :: _ => none
  | _ + 1, .raiseBefore :: _ => some 0
  | _ + 1, .raiseAfter :: _ => some 1

theorem raisedAfter_le {n m : ℕ} {fs : List Fault} (h : raisedAfter n fs = some m) : m ≤ n := by
  induction n generalizing m fs with
  | zero => simp [raisedAfter] at h
  | succ n ih =>
    cases fs with
    | nil => simp [raisedAfter] at h
    | cons f fs =>
      cases f with
      | pass =>
        simp only [raisedAfter, Option.map_eq_some_iff] at h
        obtain ⟨k, hk, rfl⟩ := h
        exact Nat.succ_le_succ (ih hk)
      | crash => simp [raisedAfter] at h
      | raiseBefore => cases h; exact Nat.zero_le _
      | raiseAfter => cases h; exact Nat.succ_le_succ (Nat.zero_le n)

namespace Process

/-- From `s`, the process performs the operations `ops`, whatever the faults. -/
def Straight (e : ε) (p : Process σ ε Unit) (s : σ) (ops : List (σ → σ)) : Prop :=
  ∀ fs, p s fs = runAll e ops s fs

theorem straight_pure (e : ε) (s : σ) : Straight e (Pure.pure () : Process σ ε Unit) s [] :=
  fun _ => rfl

theorem straight_act {e : ε} {f : σ → Option σ} {s t : σ} {op : σ → σ} (hf : f s = some t)
    (hop : op s = t) : Straight e (act e f) s [op] := by
  intro fs
  unfold runAll forEach
  cases fs with
  | nil => simp [act, hf, andThen, hop, forEach, Pure.pure]
  | cons x rest => cases x <;> simp [act, hf, andThen, hop, forEach, Pure.pure]

theorem straight_read {e : ε} {q : σ → Process σ ε Unit} {s : σ} {ops : List (σ → σ)}
    (h : Straight e (q s) s ops) : Straight e (read >>= q) s ops := fun fs => h fs

theorem runAll_cons (e : ε) (op : σ → σ) (ops : List (σ → σ)) :
    runAll e (op :: ops) = andThen (act e (some ∘ op)) fun _ => runAll e ops := rfl

/-- What a list of operations leaves behind when the process cannot crash. -/
theorem runAll_final (e : ε) (ops : List (σ → σ)) :
    ∀ (s : σ) (fs : List Fault), (∀ f ∈ fs, f ≠ .crash) →
      (∀ f ∈ (runAll e ops s fs).faults, f ≠ .crash) ∧
      match raisedAfter ops.length fs with
      | none => (runAll e ops s fs).outcome = .returned () ∧
          (runAll e ops s fs).final s = applyAll ops s
      | some m => (runAll e ops s fs).outcome = .raised e ∧
          (runAll e ops s fs).final s = applyAll (ops.take m) s := by
  induction ops with
  | nil => exact fun s fs hfs => ⟨hfs, rfl, rfl⟩
  | cons op ops ih =>
    intro s fs hfs
    rw [runAll_cons]
    cases fs with
    | nil =>
      obtain ⟨hleft, hend⟩ := ih (op s) [] (by simp)
      have hnone : raisedAfter ops.length ([] : List Fault) = none := by cases ops <;> rfl
      rw [hnone] at hend
      have hact : (act e (some ∘ op) s []).outcome = .returned () := rfl
      obtain ⟨houtcome, hfinal, hfaults⟩ := andThen_of_returned (q := fun _ => runAll e ops) hact
      rw [hfaults]
      exact ⟨hleft, houtcome.trans hend.1, hfinal.trans hend.2⟩
    | cons f fs =>
      have hfs' : ∀ x ∈ fs, x ≠ Fault.crash := fun x hx => hfs x (List.mem_cons_of_mem f hx)
      cases f with
      | crash => exact absurd rfl (hfs .crash List.mem_cons_self)
      | raiseBefore => exact ⟨hfs', rfl, rfl⟩
      | raiseAfter => exact ⟨hfs', rfl, rfl⟩
      | pass =>
        obtain ⟨hleft, hend⟩ := ih (op s) fs hfs'
        have hact : (act e (some ∘ op) s (.pass :: fs)).outcome = .returned () := rfl
        obtain ⟨houtcome, hfinal, hfaults⟩ := andThen_of_returned (q := fun _ => runAll e ops) hact
        rw [hfaults, houtcome, hfinal]
        refine ⟨hleft, ?_⟩
        simp only [List.length_cons, raisedAfter]
        cases hr : raisedAfter ops.length fs with
        | none => rw [hr] at hend; exact hend
        | some m => rw [hr] at hend; exact hend

/-- **What a straight process leaves behind** when it cannot crash: the effect of the
operations that went through. -/
theorem straight_final {e : ε} {p : Process σ ε Unit} {s : σ} {ops : List (σ → σ)}
    (h : Straight e p s ops) {fs : List Fault} (hfs : ∀ f ∈ fs, f ≠ .crash) :
    match raisedAfter ops.length fs with
    | none => (p s fs).outcome = .returned () ∧ (p s fs).final s = applyAll ops s
    | some m => (p s fs).outcome = .raised e ∧ (p s fs).final s = applyAll (ops.take m) s := by
  rw [h fs]
  exact (runAll_final e ops s fs hfs).2

/-- A straight process meets no crash that was not to come. -/
theorem straight_faults {e : ε} {p : Process σ ε Unit} {s : σ} {ops : List (σ → σ)}
    (h : Straight e p s ops) {fs : List Fault} (hfs : ∀ f ∈ fs, f ≠ .crash) :
    ∀ f ∈ (p s fs).faults, f ≠ .crash := by
  rw [h fs]
  exact (runAll_final e ops s fs hfs).1

/-- The whole list went through when the process returned. -/
theorem runAll_returned (e : ε) (ops : List (σ → σ)) :
    ∀ (s : σ) (fs : List Fault), (runAll e ops s fs).outcome = .returned () →
      (runAll e ops s fs).final s = applyAll ops s := by
  induction ops with
  | nil => exact fun s fs _ => rfl
  | cons op ops ih =>
    intro s fs h
    rw [runAll_cons] at h ⊢
    have hpass : (act e (some ∘ op) s fs).outcome = .returned () →
        (act e (some ∘ op) s fs).final s = op s →
        (andThen (act e (some ∘ op)) (fun _ => runAll e ops) s fs).final s =
          applyAll (op :: ops) s := by
      intro hact hop
      obtain ⟨houtcome, hfinal, -⟩ := andThen_of_returned (q := fun _ => runAll e ops) hact
      rw [houtcome, hop] at h
      rw [hfinal, hop]
      exact ih (op s) _ h
    cases fs with
    | nil => exact hpass rfl rfl
    | cons f fs =>
      cases f with
      | pass => exact hpass rfl rfl
      | crash => simp [andThen, act] at h
      | raiseBefore => simp [andThen, act] at h
      | raiseAfter => simp [andThen, act] at h

/-- Two straight processes in sequence. -/
theorem Straight.bind {e : ε} {p : Process σ ε Unit} {q : Unit → Process σ ε Unit} {s : σ}
    {ops ops' : List (σ → σ)} (hp : Straight e p s ops)
    (hq : Straight e (q ()) (applyAll ops s) ops') : Straight e (p >>= q) s (ops ++ ops') := by
  intro fs
  change andThen p q s fs = _
  rw [runAll, forEach_append]
  unfold andThen
  rw [hp fs]
  change _ = match (runAll e ops s fs).outcome with | _ => _
  cases hr : (runAll e ops s fs).outcome with
  | returned u =>
    simp only [runAll] at hr ⊢
    simp only [hr]
    have hfinal := runAll_returned e ops s fs hr
    rw [runAll] at hfinal
    rw [hfinal, hq, runAll]
  | raised e' => simp only [runAll] at hr ⊢; simp only [hr]
  | crashed => simp only [runAll] at hr ⊢; simp only [hr]

/-- A loop whose rounds are straight. -/
theorem straight_forEach {e : ε} {xs : List β} {body : β → Process σ ε Unit}
    {ops : β → List (σ → σ)} {J : List β → σ → Prop} {s : σ} (hs : J xs s)
    (hbody : ∀ x rest t, J (x :: rest) t → Straight e (body x) t (ops x) ∧
      J rest (applyAll (ops x) t)) :
    Straight e (forEach xs body) s (xs.flatMap ops) := by
  induction xs generalizing s with
  | nil => exact straight_pure e s
  | cons x rest ih =>
    obtain ⟨hx, hrest⟩ := hbody x rest s hs
    exact hx.bind (ih hrest)

/-! ### Counting operations -/

/-- Without faults `p`, if it returns, performs `k` operations: a crash after fewer cuts it, and
after `k` passes it has returned with the faults that are left. -/
def Takes (k : ℕ) (p : Process σ ε α) : Prop :=
  ∀ s a, (p s []).outcome = .returned a → (p s []).faults = [] ∧
    (∀ n fs, k ≤ n → p s (List.replicate n .pass ++ fs) =
      ⟨.returned a, (p s []).visited, List.replicate (n - k) .pass ++ fs⟩) ∧
    ∀ n fs, n < k → (p s (List.replicate n .pass ++ .crash :: fs)).outcome = .crashed

theorem takes_pure (a : α) : Takes 0 (Pure.pure a : Process σ ε α) := by
  intro s b h
  cases h
  exact ⟨rfl, fun n fs _ => rfl, fun n fs h => absurd h (Nat.not_lt_zero n)⟩

theorem takes_read : Takes 0 (Process.read : Process σ ε σ) := by
  intro s b h
  cases h
  exact ⟨rfl, fun n fs _ => rfl, fun n fs h => absurd h (Nat.not_lt_zero n)⟩

theorem takes_raise (e : ε) (k : ℕ) : Takes k (Process.raise e : Process σ ε α) := by
  intro s b h
  cases h

theorem takes_act (e : ε) (f : σ → Option σ) : Takes 1 (act e f) := by
  intro s a h
  cases hf : f s with
  | none => simp [act, hf] at h
  | some t =>
    refine ⟨by simp [act, hf], fun n fs hn => ?_, fun n fs hn => ?_⟩
    · obtain ⟨m, rfl⟩ := Nat.exists_eq_add_of_le' hn
      simp [act, hf, List.replicate_succ]
    · obtain rfl := Nat.lt_one_iff.mp hn
      simp [act]

theorem Takes.bind {k l : ℕ} {p : Process σ ε α} {q : α → Process σ ε β} (hp : Takes k p)
    (hq : ∀ a, Takes l (q a)) : Takes (k + l) (p >>= q) := by
  intro s b h
  change (andThen p q s []).outcome = .returned b at h
  cases hr : (p s []).outcome with
  | raised e => rw [andThen_raised hr] at h; cases h
  | crashed => rw [andThen_crashed hr] at h; cases h
  | returned a =>
    obtain ⟨hleft, hlong, hshort⟩ := hp s a hr
    rw [andThen_returned hr, hleft] at h
    obtain ⟨hleft', hlong', hshort'⟩ := hq a _ b h
    have hrun : (p >>= q) s [] = ⟨.returned b, (p s []).visited ++
        (q a ((p s []).final s) []).visited, []⟩ := by
      change andThen p q s [] = _
      rw [andThen_returned hr, hleft, hleft', h]
    -- After `k` passes the first part has returned.
    have hfirst : ∀ n fs, k ≤ n → (p >>= q) s (List.replicate n .pass ++ fs) =
        ⟨(q a ((p s []).final s) (List.replicate (n - k) .pass ++ fs)).outcome,
          (p s []).visited ++
            (q a ((p s []).final s) (List.replicate (n - k) .pass ++ fs)).visited,
          (q a ((p s []).final s) (List.replicate (n - k) .pass ++ fs)).faults⟩ := by
      intro n fs hn
      have hp' := hlong n fs hn
      have hreturned : (p s (List.replicate n .pass ++ fs)).outcome = .returned a := by rw [hp']
      have hfinal : (p s (List.replicate n .pass ++ fs)).final s = (p s []).final s := by
        rw [hp']
        rfl
      change andThen p q s _ = _
      rw [andThen_returned hreturned, hfinal, hp']
    refine ⟨by rw [hrun], fun n fs hn => ?_, fun n fs hn => ?_⟩
    · rw [hfirst n fs (by omega), hlong' (n - k) fs (by omega), hrun, Nat.sub_sub]
    · rcases Nat.lt_or_ge n k with hlt | hge
      · change (andThen p q s _).outcome = _
        rw [andThen_crashed (hshort n fs hlt)]
      · rw [hfirst n _ hge]
        exact hshort' (n - k) fs (by omega)

theorem takes_forEach {xs : List β} {body : β → Process σ ε Unit} {k : β → ℕ}
    (hbody : ∀ x ∈ xs, Takes (k x) (body x)) : Takes (xs.map k).sum (forEach xs body) := by
  induction xs with
  | nil => exact takes_pure ()
  | cons x xs ih =>
    rw [List.map_cons, List.sum_cons]
    exact Takes.bind (hbody x List.mem_cons_self)
      fun _ => ih fun y hy => hbody y (List.mem_cons_of_mem x hy)

theorem Takes.onRaise {k : ℕ} {p : Process σ ε α} {h : ε → Process σ ε Unit} (hp : Takes k p) :
    Takes k (onRaise p h) := by
  intro s a hreturned
  have hnot : ∀ e, (p s []).outcome ≠ .raised e := by
    intro e he
    rw [onRaise_raised he] at hreturned
    cases ho : (h e ((p s []).final s) (p s []).faults).outcome with
    | returned u => simp [ho, Outcome.reraise] at hreturned
    | raised e' => simp [ho, Outcome.reraise] at hreturned
    | crashed => simp [ho, Outcome.reraise] at hreturned
  rw [onRaise_of_not_raised hnot] at hreturned ⊢
  obtain ⟨hleft, hlong, hshort⟩ := hp s a hreturned
  refine ⟨hleft, fun n fs hn => ?_, fun n fs hn => ?_⟩
  · rw [onRaise_of_not_raised (by rw [hlong n fs hn]; simp), hlong n fs hn]
  · rw [onRaise_of_not_raised (by rw [hshort n fs hn]; simp), hshort n fs hn]

/-- A handler that never returns. -/
theorem Takes.orElse {k : ℕ} {p : Process σ ε α} {h : ε → Process σ ε α} (hp : Takes k p)
    (hh : ∀ e s fs a, (h e s fs).outcome ≠ .returned a) : Takes k (orElse p h) := by
  intro s a hreturned
  have hnot : ∀ e, (p s []).outcome ≠ .raised e := by
    intro e he
    rw [orElse_raised he] at hreturned
    exact hh e _ _ a hreturned
  rw [orElse_of_not_raised hnot] at hreturned ⊢
  obtain ⟨hleft, hlong, hshort⟩ := hp s a hreturned
  refine ⟨hleft, fun n fs hn => ?_, fun n fs hn => ?_⟩
  · rw [orElse_of_not_raised (by rw [hlong n fs hn]; simp), hlong n fs hn]
  · rw [orElse_of_not_raised (by rw [hshort n fs hn]; simp), hshort n fs hn]

end Process

end DryTrade
