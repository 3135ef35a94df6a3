import DryTrade.Process

/-!
# Publishing a directory by renaming it

A directory is built entry by entry under a temporary name, and then renamed to the
name its readers know.  An entry is a path and what is there, a directory or the
content of a file; a path is created once, and removed only when nothing is inside.

## Main definitions

* `StagingArea` — the temporary directory and the published one.
* `makeStaging`, `addEntry`, `setEntry`, `publish`, `removeEntry`, `removeStaging` — the operations.
* `adds` — the operations that create the entries of a list.
* `Removing` — the entries that are left while a directory is removed.

## Main results

* `applyAll_adds` — what the first operations of a build leave.
* `Removing.straight` — a directory whose entries are visited from the inside out is emptied.
* `Process.runAll_passed`, `Process.runAll_stopped` — a process whose first operations go through.
-/

namespace DryTrade

/-- A directory under its temporary name, and one under the name its readers know. -/
structure StagingArea (P C : Type) where
  staging : Option (List (P × C))
  published : Option (List (P × C))

namespace StagingArea

variable {P C : Type}

/-- Neither directory is there. -/
def clean : StagingArea P C := ⟨none, none⟩

/-- `staging.mkdir(exist_ok=False)`. -/
def makeStaging (a : StagingArea P C) : Option (StagingArea P C) :=
  match a.staging with
  | none => some { a with staging := some [] }
  | some _ => none

/-- `os.replace(staging, target)`: a directory replaces no directory that has entries. -/
def publish (a : StagingArea P C) : Option (StagingArea P C) :=
  match a.staging, a.published with
  | none, _ => none
  | some _, some (_ :: _) => none
  | some t, _ => some ⟨none, some t⟩

/-- `staging.rmdir()`. -/
def removeStaging (a : StagingArea P C) : Option (StagingArea P C) :=
  match a.staging with
  | some [] => some { a with staging := none }
  | _ => none

section

variable [DecidableEq P]

/-- What is at a path of a directory. -/
def lookup (t : List (P × C)) (p : P) : Option C := (t.find? fun e => e.1 == p).map (·.2)

/-- What is at a path where nothing else is. -/
theorem lookup_eq_some {t : List (P × C)} {p : P} {c : C} (h : (p, c) ∈ t)
    (honly : ∀ e ∈ t, e.1 = p → e.2 = c) : lookup t p = some c := by
  cases hfind : t.find? fun e => e.1 == p with
  | none =>
    have hnot := List.find?_eq_none.mp hfind _ h
    simp at hnot
  | some e =>
    have hpath : e.1 = p := by simpa using List.find?_some hfind
    rw [lookup, hfind, Option.map_some, honly e (List.mem_of_find?_eq_some hfind) hpath]

/-- Create an entry; it fails when there is one. -/
def addEntry (p : P) (c : C) (a : StagingArea P C) : Option (StagingArea P C) :=
  match a.staging with
  | none => none
  | some t => if p ∈ t.map (·.1) then none else some { a with staging := some (t ++ [(p, c)]) }

/-- Write a file that is there. -/
def setEntry (p : P) (c : C) (a : StagingArea P C) : Option (StagingArea P C) :=
  match a.staging with
  | none => none
  | some t =>
    if p ∈ t.map (·.1) then
      some { a with staging := some (t.map fun e => if e.1 = p then (p, c) else e) }
    else none

/-- `path.unlink()` or `path.rmdir()`: it fails while something is `inside`. -/
def removeEntry (inside : P → P → Bool) (p : P) (a : StagingArea P C) :
    Option (StagingArea P C) :=
  match a.staging with
  | none => none
  | some t =>
    if p ∈ t.map (·.1) ∧ ∀ e ∈ t, inside e.1 p = false then
      some { a with staging := some (t.filter fun e => e.1 != p) }
    else none

end

/-! ### Building -/

/-- The effect of creating an entry. -/
def add (e : P × C) (a : StagingArea P C) : StagingArea P C :=
  { a with staging := a.staging.map (· ++ [e]) }

/-- The operations that create the entries of a list. -/
def adds (entries : List (P × C)) : List (StagingArea P C → StagingArea P C) := entries.map add

theorem applyAll_adds (entries t : List (P × C)) (published : Option (List (P × C))) :
    Process.applyAll (adds entries) ⟨some t, published⟩ = ⟨some (t ++ entries), published⟩ := by
  induction entries generalizing t with
  | nil => simp [adds, Process.applyAll]
  | cons e entries ih =>
    have hstep := ih (t ++ [e])
    simp only [adds, Process.applyAll] at hstep ⊢
    simpa [add] using hstep

theorem adds_append (entries entries' : List (P × C)) :
    adds (entries ++ entries') = adds entries ++ adds entries' := List.map_append

/-- An entry that is not there is created. -/
theorem straight_addEntry [DecidableEq P] {ε : Type} (e : ε) {p : P} (c : C) {t : List (P × C)}
    {published : Option (List (P × C))} (hp : p ∉ t.map (·.1)) :
    Process.Straight e (Process.act e (addEntry p c)) ⟨some t, published⟩ (adds [(p, c)]) :=
  Process.straight_act (by simp only [addEntry, if_neg hp]; rfl) rfl

/-- The effect of writing a file that is there. -/
def set [DecidableEq P] (p : P) (c : C) (a : StagingArea P C) : StagingArea P C :=
  { a with staging := a.staging.map fun t => t.map fun e => if e.1 = p then (p, c) else e }

theorem straight_setEntry [DecidableEq P] {ε : Type} (e : ε) {p : P} (c : C) {t : List (P × C)}
    {published : Option (List (P × C))} (hp : p ∈ t.map (·.1)) :
    Process.Straight e (Process.act e (setEntry p c)) ⟨some t, published⟩ [set p c] :=
  Process.straight_act (by simp only [setEntry, if_pos hp]; rfl) rfl

/-- The effect of the rename. -/
def rename (a : StagingArea P C) : StagingArea P C := ⟨none, a.staging⟩

theorem straight_publish {ε : Type} (e : ε) (t : List (P × C)) :
    Process.Straight e (Process.act e publish) ⟨some t, none⟩ [rename] :=
  Process.straight_act rfl rfl

/-! ### Removing -/

/-- The effect of removing an entry. -/
def drop [DecidableEq P] (p : P) (a : StagingArea P C) : StagingArea P C :=
  { a with staging := a.staging.map fun t => t.filter fun e => e.1 != p }

/-- The effect of removing the directory itself. -/
def discard (a : StagingArea P C) : StagingArea P C := { a with staging := none }

theorem straight_removeStaging {ε : Type} (e : ε) (published : Option (List (P × C))) :
    Process.Straight e (Process.act e removeStaging) ⟨some [], published⟩ [discard] :=
  Process.straight_act rfl rfl

/-- The paths that are left are those of `rest`, and each of them is inside none of the later ones. -/
structure Removing (inside : P → P → Bool) (published : Option (List (P × C))) (rest : List P)
    (a : StagingArea P C) : Prop where
  left : ∃ t, a = ⟨some t, published⟩ ∧ ∀ p, p ∈ t.map (·.1) ↔ p ∈ rest
  nodup : rest.Nodup
  order : rest.Pairwise fun p q => inside q p = false
  irrefl : ∀ p ∈ rest, inside p p = false

variable [DecidableEq P] {ε : Type} {inside : P → P → Bool} {order : List P}
  {published : Option (List (P × C))} {a : StagingArea P C}

/-- One removal. -/
theorem Removing.step {p : P} {rest : List P} (h : Removing inside published (p :: rest) a) (e : ε) :
    Process.Straight e (Process.act e (removeEntry inside p)) a [drop p] ∧
      Removing inside published rest (drop p a) := by
  obtain ⟨t, rfl, ht⟩ := h.left
  obtain ⟨hp, hrest⟩ := List.nodup_cons.mp h.nodup
  obtain ⟨hlater, horder⟩ := List.pairwise_cons.mp h.order
  have hinside : ∀ x ∈ t, inside x.1 p = false := by
    intro x hx
    rcases List.mem_cons.mp ((ht x.1).mp (List.mem_map_of_mem hx)) with heq | hmem
    · rw [heq]
      exact h.irrefl p List.mem_cons_self
    · exact hlater _ hmem
  refine ⟨Process.straight_act ?_ rfl, ⟨_, rfl, fun q => ?_⟩, hrest, horder,
    fun q hq => h.irrefl q (List.mem_cons_of_mem p hq)⟩
  · simp only [removeEntry]
    rw [if_pos ⟨(ht p).mpr List.mem_cons_self, hinside⟩]
    rfl
  · have hq := ht q
    simp only [List.mem_map, List.mem_filter, List.mem_cons] at hq ⊢
    constructor
    · rintro ⟨x, ⟨hx, hne⟩, rfl⟩
      exact (hq.mp ⟨x, hx, rfl⟩).resolve_left (by simpa using hne)
    · intro hmem
      obtain ⟨x, hx, rfl⟩ := hq.mpr (.inr hmem)
      refine ⟨x, ⟨hx, ?_⟩, rfl⟩
      simpa using ne_of_mem_of_not_mem hmem hp

/-- **A directory whose entries are visited from the inside out is emptied.** -/
theorem Removing.straight (h : Removing inside published order a) (e : ε) :
    Process.Straight e (Process.forEach order fun p => Process.act e (removeEntry inside p)) a
        (order.map drop) ∧
      Process.applyAll (order.map drop) a = ⟨some [], published⟩ := by
  constructor
  · have hloop : Process.Straight e
        (Process.forEach order fun p => Process.act e (removeEntry inside p)) a
        (order.flatMap fun p => [drop p]) :=
      Process.straight_forEach (J := Removing inside published) h fun p rest t ht => ht.step e
    rwa [← List.map_eq_flatMap] at hloop
  · induction order generalizing a with
    | nil =>
      obtain ⟨t, rfl, ht⟩ := h.left
      have hnil : t = [] := by
        rw [List.eq_nil_iff_forall_not_mem]
        intro x hx
        exact List.not_mem_nil ((ht x.1).mp (List.mem_map_of_mem hx))
      rw [hnil]
      rfl
    | cons p rest ih => exact ih (h.step e).2

/-- The directory is there until it is removed itself. -/
theorem applyAll_drop (ps : List P) (t : List (P × C)) :
    ∃ t', Process.applyAll (ps.map drop) (⟨some t, published⟩ : StagingArea P C) =
      ⟨some t', published⟩ := by
  induction ps generalizing t with
  | nil => exact ⟨t, rfl⟩
  | cons p ps ih => exact ih _

end StagingArea

/-! ### Operations that go through -/

theorem raisedAfter_nil (n : ℕ) : raisedAfter n [] = none := by
  cases n <;> rfl

namespace Process

variable {σ ε : Type}

/-- A last step that only returns leaves what was there. -/
theorem final_bind_pure {α β : Type} (p : Process σ ε α) (b : β) (s : σ) (fs : List Fault) :
    ((p >>= fun _ => Pure.pure b) s fs).final s = (p s fs).final s := by
  change (andThen p (fun _ => Pure.pure b) s fs).final s = _
  cases hr : (p s fs).outcome with
  | returned a => exact (andThen_of_returned hr).2.1
  | raised e => rw [andThen_raised hr]; rfl
  | crashed => rw [andThen_crashed hr]; rfl

/-- What a handler leaves that raises again. -/
theorem onRaise_final {α : Type} {p : Process σ ε α} {h : ε → Process σ ε Unit} {s t : σ}
    {fs : List Fault} {e : ε} (hp : (p s fs).outcome = .raised e) (hfinal : (p s fs).final s = t) :
    (onRaise p h s fs).final s = (h e t (p s fs).faults).final t := by
  rw [onRaise_raised hp, Ran.final_append, hfinal]
  rfl

/-- Past its last operation a run has returned, and the other faults are left. -/
theorem runAll_passed (e : ε) (ops : List (σ → σ)) (n : ℕ) (fs : List Fault) :
    ∀ s, ops.length ≤ n →
      (runAll e ops s (List.replicate n .pass ++ fs)).outcome = .returned () ∧
      (runAll e ops s (List.replicate n .pass ++ fs)).final s = applyAll ops s ∧
      (runAll e ops s (List.replicate n .pass ++ fs)).faults =
        List.replicate (n - ops.length) .pass ++ fs := by
  induction ops generalizing n with
  | nil => exact fun s _ => ⟨rfl, rfl, rfl⟩
  | cons op ops ih =>
    intro s hn
    obtain ⟨n, rfl⟩ : ∃ k, n = k + 1 := ⟨n - 1, by simp at hn; omega⟩
    obtain ⟨houtcome, hfinal, hfaults⟩ := ih n (op s) (by simpa using hn)
    have hact : (act e (some ∘ op) s (List.replicate (n + 1) .pass ++ fs)).outcome =
        .returned () := rfl
    obtain ⟨h₁, h₂, h₃⟩ := andThen_of_returned (q := fun _ => runAll e ops) hact
    rw [runAll_cons]
    refine ⟨h₁.trans houtcome, h₂.trans hfinal, h₃.trans (hfaults.trans ?_)⟩
    simp

/-- **A run whose first `n` operations go through**, and which then meets a fault. -/
theorem runAll_stopped (e : ε) (ops : List (σ → σ)) (n : ℕ) (fs : List Fault) :
    ∀ s, n < ops.length →
      ((runAll e ops s (List.replicate n .pass ++ .crash :: fs)).outcome = .crashed ∧
        (runAll e ops s (List.replicate n .pass ++ .crash :: fs)).final s =
          applyAll (ops.take n) s) ∧
      ∀ took : Bool,
        let f := if took then Fault.raiseAfter else Fault.raiseBefore
        (runAll e ops s (List.replicate n .pass ++ f :: fs)).outcome = .raised e ∧
          (runAll e ops s (List.replicate n .pass ++ f :: fs)).final s =
            applyAll (ops.take (n + took.toNat)) s ∧
          (runAll e ops s (List.replicate n .pass ++ f :: fs)).faults = fs := by
  induction ops generalizing n with
  | nil =>
    intro s hn
    simp at hn
  | cons op ops ih =>
    intro s hn
    cases n with
    | zero =>
      refine ⟨⟨rfl, rfl⟩, fun took => ?_⟩
      cases took
      · exact ⟨rfl, rfl, rfl⟩
      · exact ⟨rfl, rfl, rfl⟩
    | succ n =>
      obtain ⟨⟨hc₁, hc₂⟩, hraised⟩ := ih n (op s) (by simpa using hn)
      have hact : ∀ rest, (act e (some ∘ op) s (List.replicate (n + 1) .pass ++ rest)).outcome =
          .returned () := fun rest => rfl
      obtain ⟨h₁, h₂, -⟩ := andThen_of_returned (q := fun _ => runAll e ops) (hact (.crash :: fs))
      rw [runAll_cons]
      refine ⟨⟨h₁.trans hc₁, h₂.trans hc₂⟩, fun took => ?_⟩
      obtain ⟨hr₁, hr₂, hr₃⟩ := hraised took
      obtain ⟨h₃, h₄, h₅⟩ := andThen_of_returned (q := fun _ => runAll e ops)
        (hact ((if took then Fault.raiseAfter else Fault.raiseBefore) :: fs))
      rw [Nat.succ_add]
      exact ⟨h₃.trans hr₁, h₄.trans hr₂, h₅.trans hr₃⟩

end Process

end DryTrade
