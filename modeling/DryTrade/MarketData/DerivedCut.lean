import DryTrade.MarketData.Atomicity
import DryTrade.MarketData.DerivedPromotion

/-!
# Cutting the transaction of a derived dataset

A crash after any number of operations leaves the transaction before its commit, with
or without the temporary of a journal, or after it.

## Main definitions

* `crashAfter`, `Opening` — crashes, and those that leave the temporary of a journal.
* `CutAt` — what a crash leaves.

## Main results

* `promote_cut` — the protocol from the first journal to the second.
* `transact_cut` — the states a crash can leave.
-/

namespace DryTrade
namespace MarketData
namespace DerivedTransaction

open FileSystem

variable {Digest : Type} {T : Transaction Digest}

/-- A crash after `n` operations. -/
def crashAfter (n : ℕ) : List Fault := List.replicate n .pass ++ [.crash]

theorem crashing_crashAfter (n : ℕ) : ∀ f ∈ crashAfter n, Crashing f := by
  intro f hf
  rcases List.mem_append.mp hf with hf | hf
  · exact .inl (List.eq_of_mem_replicate hf)
  · exact .inr (List.mem_singleton.mp hf)

/-- The crashes that leave the temporary of a journal: after it was opened and before it was
renamed, in the first journal write or in the second. -/
def Opening (artifacts : List (Artifact Digest)) (n : ℕ) : Prop :=
  n = 1 ∨ n = 2 ∨
    Convertible artifacts ∧ (n = operations artifacts + 4 ∨ n = operations artifacts + 5)

/-! ### The phases a crash meets -/

section

variable {fs fs' : DerivedFiles Digest} {j : Option ℕ}

/-- Nothing happened. -/
theorem settled_before (T : Transaction Digest) : Settled T T.original none T.before where
  frame := ChangesOnly.refl _ _
  targets _ _ := rfl
  removed t _ := T.fresh t
  journal := T.unjournaled.1
  incomplete := T.unjournaled.2

/-- The temporary of the first journal is there. -/
theorem JournalOpen.settled (h : JournalOpen T.id T.before fs) :
    ∃ i, Settled T T.original (some i) fs := by
  obtain ⟨⟨i, hi⟩, hchange⟩ := h
  refine ⟨i, hchange.mono fun n hn => hn ▸ Transaction.owns_journalTemporary,
    fun t _ => hchange.read (by simp), fun t _ => ?_, ?_, hi⟩
  · exact ⟨(hchange.entry _ (by simp)).trans (T.fresh t).1,
      (hchange.entry _ (by simp)).trans (T.fresh t).2⟩
  · exact (hchange.entry _ (by simp)).trans T.unjournaled.1

theorem owns_of_journal {n : DerivedFile}
    (hn : n = .journalTemporary T.id ∨ n = .journal T.id) : T.Owns n :=
  hn.elim (fun h => h ▸ Transaction.owns_journalTemporary) fun h => h ▸ Transaction.owns_journal

/-- The first journal is there. -/
theorem JournalWritten.preparing (h : JournalWritten (T.record .prepared) T.before fs) :
    Preparing T [] fs := by
  obtain ⟨hchange, hread, hgone⟩ := h
  have huntouched : ∀ t, fs.entry (.target T.series t) = T.before.entry (.target T.series t) ∧
      fs.entry (.backup T.series t T.id) = none := fun t =>
    ⟨hchange.entry _ (by simp), (hchange.entry _ (by simp)).trans (T.fresh t).2⟩
  exact {
    undoable := {
      frame := hchange.mono fun n => owns_of_journal
      restorable := fun t _ => .inl ⟨(huntouched t).2, .inr (huntouched t).1⟩
      journal := hread
      incomplete := hgone }
    untouched := fun a _ => huntouched a.target
    prepared := by simp
    converted := by simp
    absent := fun a _ _ => (hchange.entry _ (by simp)).trans (T.fresh a.target).1 }

/-- The temporary of the second journal is there. -/
theorem JournalOpen.undoable (h : JournalOpen T.id fs fs') (hundoable : Undoable T none fs) :
    ∃ i, Undoable T (some i) fs' := by
  obtain ⟨⟨i, hi⟩, hchange⟩ := h
  refine ⟨i, hundoable.frame.trans (hchange.mono fun n hn => hn ▸ Transaction.owns_journalTemporary),
    fun t ht => stable_restorable (S := (· = .journalTemporary T.id)) (by simp) (by simp) _ _
      (hundoable.restorable t ht) hchange, ?_, hi⟩
  exact (hchange.read (by simp)).trans hundoable.journal

/-- The second journal is there. -/
theorem JournalWritten.finishable (h : JournalWritten (T.record .committed) fs fs')
    (hpromoting : Promoting T T.artifacts fs) : Finishable T fs' := by
  obtain ⟨hchange, hread, hgone⟩ := h
  exact ⟨hpromoting.undoable.frame.trans (hchange.mono fun n => owns_of_journal),
    fun a ha => (hchange.read (by simp)).trans (hpromoting.promoted a ha), hread, hgone⟩

end

/-- The states of a run in which the journal does not become COMMITTED. -/
def Uncommitted (T : Transaction Digest) (states : List (DerivedFiles Digest)) : Prop :=
  ∀ t ∈ states, ∃ j, BeforeCommit T j t

theorem Uncommitted.append {states states' : List (DerivedFiles Digest)}
    (h : Uncommitted T states) (h' : Uncommitted T states') : Uncommitted T (states ++ states') :=
  fun t ht => (List.mem_append.mp ht).elim (h t) (h' t)

theorem uncommitted_of_undoable {states : List (DerivedFiles Digest)} {j : Option ℕ}
    (h : ∀ t ∈ states, Undoable T j t) : Uncommitted T states := fun t ht => ⟨j, .inl (h t ht)⟩

/-- The two loops of a transaction. -/
def promoteArtifacts (T : Transaction Digest) : FilesProcess Digest Unit := do
  Process.forEach T.artifacts (prepareArtifact T.series T.id)
  Process.forEach T.artifacts (promoteArtifact T.series T.id)

theorem promoteArtifacts_meets {A : Fault → Prop} :
    Process.Meets A (Preparing T []) (promoteArtifacts T) (Undoable T none)
      (fun _ fs => Promoting T T.artifacts fs ∧ Convertible T.artifacts)
      (fun _ fs => Undoable T none fs ∧ (Process.CanRaise A ∨ ¬ Convertible T.artifacts)) := by
  have hpromote : Process.Meets A (fun fs => Preparing T T.artifacts fs)
      (Process.forEach T.artifacts (promoteArtifact T.series T.id)) (Undoable T none)
      (fun _ fs => Promoting T T.artifacts fs)
      (fun _ fs => Undoable T none fs ∧ (Process.CanRaise A ∨ ¬ Convertible T.artifacts)) :=
    Process.Meets.weaken promoteArtifacts_keeps (fun _ h => h.promoting) (fun _ h => h)
      (fun _ _ h => h) fun _ _ h => ⟨h.1, .inl h.2⟩
  by_cases hconvertible : Convertible T.artifacts
  · exact Process.Meets.bind prepareArtifacts_meets fun _ =>
      hpromote.post fun _ _ h => ⟨h, hconvertible⟩
  · refine Process.Meets.bind (M := fun _ _ => False) (prepareArtifacts_meets.post ?_)
      fun _ _ _ h => h.elim
    exact fun _ _ h => hconvertible h.converted

theorem promoteAll_eq (T : Transaction Digest) :
    promoteAll T.series T.id T.artifacts =
      (promoteArtifacts T >>= fun _ => writeJournal (T.record .committed)) :=
  (Process.andThen_assoc _ _ _).symm

/-! ### Cutting the protocol -/

/-- A run that a crash cuts, or that fails, before the journal becomes COMMITTED. -/
structure CutBefore (T : Transaction Digest) (j : Option ℕ) (s : DerivedFiles Digest)
    (r : Ran (DerivedFiles Digest) Failure Unit) : Prop where
  outcome : ∀ u, r.outcome ≠ .returned u
  visited : Uncommitted T r.visited
  final : BeforeCommit T j (r.final s)

/-- A run through which the journal becomes COMMITTED at last. -/
structure Commits (T : Transaction Digest) (left : List Fault)
    (r : Ran (DerivedFiles Digest) Failure Unit) : Prop where
  outcome : r.outcome = .returned ()
  faults : r.faults = left
  visited : ∃ front t, r.visited = front ++ [t] ∧ Uncommitted T front ∧ Finishable T t

/-- Preparing and promoting, where the artifacts do not convert: the failure is undone. -/
theorem promote_fails {s : DerivedFiles Digest} (hs : Preparing T [] s)
    (hconvertible : ¬ Convertible T.artifacts) {faults : List Fault} (hfaults : ∀ f ∈ faults, Crashing f) :
    CutBefore T none s (Process.onRaise (promoteAll T.series T.id T.artifacts)
      (fun _ => abandon T.series T.id (T.artifacts.map Artifact.journaled)) s faults) := by
  have hmeets : Process.Meets Crashing (Preparing T [])
      (Process.onRaise (promoteAll T.series T.id T.artifacts)
        (fun _ => abandon T.series T.id (T.artifacts.map Artifact.journaled)))
      (BeforeCommit T none) (fun _ _ => False) (fun _ => BeforeCommit T none) := by
    rw [promoteAll_eq]
    refine Process.Meets.onRaise (M := fun _ => Undoable T none) ?_ fun _ => ?_
    · refine Process.Meets.bind (M := fun _ _ => False) ?_ fun _ _ _ h => h.elim
      exact Process.Meets.weaken promoteArtifacts_meets (fun _ h => h) (fun _ h => .inl h)
        (fun _ _ h => hconvertible h.2) fun _ _ h => h.1
    · exact Process.Meets.weaken abandon_keeps (fun _ h => h) (fun _ h => h)
        (fun _ _ h => .inr h) fun _ _ h => h.1
  obtain ⟨-, hvisited, -⟩ := hmeets s faults hs hfaults
  exact ⟨hmeets.ne_returned hs hfaults, fun t ht => ⟨none, hvisited t ht⟩,
    Ran.final_of_visited (.inl hs.undoable) hvisited⟩

/-- **Preparing, promoting and the second journal**, cut after `n` operations. -/
theorem promote_cut {s : DerivedFiles Digest} (hs : Preparing T [] s) (n : ℕ) :
    let r := Process.onRaise (promoteAll T.series T.id T.artifacts)
      (fun _ => abandon T.series T.id (T.artifacts.map Artifact.journaled)) s (crashAfter n)
    (∃ j, CutBefore T j s r ∧ (j ≠ none ↔
        Convertible T.artifacts ∧ (n = operations T.artifacts + 1 ∨ n = operations T.artifacts + 2))) ∨
      operations T.artifacts + 3 ≤ n ∧ Commits T (crashAfter (n - (operations T.artifacts + 3))) r := by
  intro r
  by_cases hconvertible : Convertible T.artifacts
  swap
  · exact .inl ⟨none, promote_fails hs hconvertible (crashing_crashAfter n), by
      simp [hconvertible]⟩
  have hloops := promoteArtifacts_meets (T := T) (A := Crashing)
  have htakes : Process.Takes (operations T.artifacts) (promoteArtifacts T) := takes_artifacts T
  -- Without faults the loops return.
  obtain ⟨u, hreturned, hfinal, -⟩ := (promoteArtifacts_meets (T := T)
    (A := Process.NoFault)).noFault (fun _ _ h => h.2.elim
      (fun h => h.elim id id) fun h => h hconvertible) hs
  obtain ⟨-, hlong, hshort⟩ := htakes s u hreturned
  have hrun : (promoteAll T.series T.id T.artifacts : FilesProcess Digest Unit) =
      Process.andThen (promoteArtifacts T) fun _ => writeJournal (T.record .committed) :=
    promoteAll_eq T
  rcases Nat.lt_or_ge n (operations T.artifacts) with hlt | hge
  · -- A crash in the loops.
    have hcrashed := hshort n [] hlt
    obtain ⟨-, hvisited, -⟩ := hloops s _ hs (crashing_crashAfter n)
    have hr : r = ⟨.crashed, (promoteArtifacts T s (crashAfter n)).visited,
        (promoteArtifacts T s (crashAfter n)).faults⟩ := by
      have hall := Process.andThen_crashed
        (q := fun _ => writeJournal (T.record .committed)) hcrashed
      rw [← hrun] at hall
      exact (Process.onRaise_of_not_raised (by
        intro e he
        change (promoteAll T.series T.id T.artifacts s (crashAfter n)).outcome = _ at he
        rw [crashAfter, hall] at he
        cases he)).trans hall
    refine .inl ⟨none, ⟨by rw [hr]; simp, by rw [hr]; exact uncommitted_of_undoable hvisited, ?_⟩,
      by simp; omega⟩
    rw [hr]
    exact .inl (Ran.final_of_visited hs.undoable hvisited)
  · -- The loops return, and the second journal is written.
    have hloop := hlong n [.crash] hge
    have hvisited : ∀ t ∈ (promoteArtifacts T s []).visited, Undoable T none t := by
      obtain ⟨-, hvisited, -⟩ := hloops s _ hs (crashing_crashAfter n)
      rw [crashAfter, hloop] at hvisited
      exact hvisited
    obtain ⟨opened, written, renamed, hopened, hwritten, hrenamed, hpass, hcrash₀, hcrash₁, hcrash₂⟩ :=
      writeJournal_run (T.record .committed) hfinal.undoable.incomplete
    obtain ⟨i, hi⟩ := JournalOpen.undoable hopened hfinal.undoable
    obtain ⟨k, hk⟩ := JournalOpen.undoable hwritten hfinal.undoable
    have hr : ∀ out : Ran (DerivedFiles Digest) Failure Unit, (∀ e, out.outcome ≠ .raised e) →
        writeJournal (T.record .committed) ((promoteArtifacts T s []).final s)
          (List.replicate (n - operations T.artifacts) .pass ++ [.crash]) = out →
        r = ⟨out.outcome, (promoteArtifacts T s []).visited ++ out.visited, out.faults⟩ := by
      intro out hnot hout
      have hall : promoteAll T.series T.id T.artifacts s (crashAfter n) =
          ⟨out.outcome, (promoteArtifacts T s []).visited ++ out.visited, out.faults⟩ := by
        have hloop' : promoteArtifacts T s (crashAfter n) = _ := hloop
        rw [hrun, Process.andThen_returned (a := u) (by rw [hloop']), hloop', ← hout]
        rfl
      refine (Process.onRaise_of_not_raised fun e => ?_).trans hall
      rw [hall]
      exact hnot e
    have hfront := uncommitted_of_undoable hvisited
    obtain ⟨m, hm⟩ : ∃ m, n = operations T.artifacts + m := ⟨n - operations T.artifacts, by omega⟩
    have hsub : n - operations T.artifacts = m := by omega
    rw [hsub] at hr
    match m, hm with
    | 0, hm =>
      have hr' := hr _ (by simp) (hcrash₀ [])
      refine .inl ⟨none, ⟨by rw [hr']; simp, by rw [hr']; simpa using hfront, ?_⟩, by simp; omega⟩
      rw [hr', Ran.final, List.append_nil]
      exact .inl hfinal.undoable
    | 1, hm =>
      have hr' := hr _ (by simp) (hcrash₁ [])
      refine .inl ⟨some i, ⟨by rw [hr']; simp, ?_, ?_⟩, by simp [hconvertible, hm]⟩
      · rw [hr']
        exact hfront.append (uncommitted_of_undoable (by simpa using hi))
      · rw [hr', Ran.final, List.getLastD_concat]
        exact .inl hi
    | 2, hm =>
      have hr' := hr _ (by simp) (hcrash₂ [])
      refine .inl ⟨some k, ⟨by rw [hr']; simp, ?_, ?_⟩, by simp [hconvertible, hm]⟩
      · rw [hr']
        refine hfront.append fun t ht => ?_
        rcases List.mem_cons.mp ht with rfl | ht
        · exact ⟨_, .inl hi⟩
        · rw [List.mem_singleton.mp ht]
          exact ⟨_, .inl hk⟩
      · rw [hr']
        exact .inl (by simpa [Ran.final] using hk)
    | m + 3, hm =>
      have hr' := hr _ (by simp) (hpass m [.crash])
      refine .inr ⟨by omega, by rw [hr'], ?_, ?_⟩
      · have hleft : n - (operations T.artifacts + 3) = m := by omega
        rw [hr', hleft]
        rfl
      · refine ⟨(promoteArtifacts T s []).visited ++ [opened, written], renamed, ?_, ?_,
          hrenamed.finishable hfinal⟩
        · rw [hr']
          simp
        · refine hfront.append fun t ht => ?_
          rcases List.mem_cons.mp ht with rfl | ht
          · exact ⟨_, .inl hi⟩
          · rw [List.mem_singleton.mp ht]
            exact ⟨_, .inl hk⟩

/-- What a crash after `n` operations leaves before the commit, or after it. -/
structure CutAt (T : Transaction Digest) (n : ℕ) (r : Ran (DerivedFiles Digest) Failure Unit) :
    Prop where
  cases : (Uncommitted T r.visited ∧ ∃ j, BeforeCommit T j (r.final T.before) ∧
      (j ≠ none ↔ Opening T.artifacts n)) ∨
    ((∃ t ∈ r.visited, Finishable T t) ∧ AfterCommit T (r.final T.before) ∧ ¬ Opening T.artifacts n)

/-- Finishing a committed transaction, cut or not. -/
theorem finish_cut {t : DerivedFiles Digest} (ht : Finishable T t) {faults : List Fault}
    (hfaults : ∀ f ∈ faults, Crashing f) :
    ∀ x ∈ (Process.orElse (finish T.series T.id (T.artifacts.map Artifact.journaled))
      (fun _ => pure ()) t faults).visited, AfterCommit T x := by
  have hkeeps : Process.Keeps Crashing (Finishable T)
      (Process.orElse (finish T.series T.id (T.artifacts.map Artifact.journaled))
        (fun _ => pure ())) (AfterCommit T) (fun _ _ => True) :=
    Process.Keeps.orElse (Process.Keeps.weaken finish_keeps (fun _ h => h) (fun _ h => h)
      fun _ _ _ => trivial) fun h => absurd h not_canRaise_crashing
  exact (hkeeps t faults ht hfaults).2.1

/-- **The states a crash can leave.** -/
theorem transact_cut (T : Transaction Digest) (n : ℕ) :
    CutAt T n (transact T.series T.id T.artifacts T.before (crashAfter n)) := by
  obtain ⟨opened, written, renamed, hopened, hwritten, hrenamed, hpass, hcrash₀, hcrash₁, hcrash₂⟩ :=
    writeJournal_run (T.record .prepared) T.unjournaled.2
  obtain ⟨i, hi⟩ := JournalOpen.settled hopened
  obtain ⟨k, hk⟩ := JournalOpen.settled hwritten
  let promote : FilesProcess Digest Unit := Process.onRaise (promoteAll T.series T.id T.artifacts)
    fun _ => abandon T.series T.id (T.artifacts.map Artifact.journaled)
  let close : FilesProcess Digest Unit :=
    Process.orElse (finish T.series T.id (T.artifacts.map Artifact.journaled)) fun _ => pure ()
  have hrun : transact T.series T.id T.artifacts =
      Process.andThen (writeJournal (T.record .prepared)) fun _ =>
        Process.andThen promote fun _ => close := rfl
  have hcut : ∀ {out : Ran (DerivedFiles Digest) Failure Unit}, out.outcome = .crashed →
      writeJournal (T.record .prepared) T.before (crashAfter n) = out →
      transact T.series T.id T.artifacts T.before (crashAfter n) =
        ⟨.crashed, out.visited, out.faults⟩ := by
    rintro out hcrashed rfl
    rw [hrun, Process.andThen_crashed hcrashed]
  match n with
  | 0 =>
    refine ⟨.inl ⟨?_, none, ?_, by simp [Opening]⟩⟩
    · rw [hcut rfl (hcrash₀ [])]
      exact fun t ht => absurd ht List.not_mem_nil
    · rw [hcut rfl (hcrash₀ [])]
      exact .inr (settled_before T)
  | 1 =>
    refine ⟨.inl ⟨?_, some i, ?_, by simp [Opening]⟩⟩
    · rw [hcut rfl (hcrash₁ [])]
      exact fun t ht => ⟨some i, .inr (List.mem_singleton.mp ht ▸ hi)⟩
    · rw [hcut rfl (hcrash₁ [])]
      exact .inr hi
  | 2 =>
    refine ⟨.inl ⟨?_, some k, ?_, by simp [Opening]⟩⟩
    · rw [hcut rfl (hcrash₂ [])]
      intro t ht
      rcases List.mem_cons.mp ht with rfl | ht
      · exact ⟨some i, .inr hi⟩
      · exact ⟨some k, .inr (List.mem_singleton.mp ht ▸ hk)⟩
    · rw [hcut rfl (hcrash₂ [])]
      exact .inr hk
  | n + 3 =>
    have hs := JournalWritten.preparing hrenamed
    have hfront : Uncommitted T [opened, written, renamed] := by
      intro t ht
      rcases List.mem_cons.mp ht with rfl | ht
      · exact ⟨some i, .inr hi⟩
      rcases List.mem_cons.mp ht with rfl | ht
      · exact ⟨some k, .inr hk⟩
      · exact ⟨none, .inl (List.mem_singleton.mp ht ▸ hs.undoable)⟩
    have hr : transact T.series T.id T.artifacts T.before (crashAfter (n + 3)) =
        ⟨(Process.andThen promote (fun _ => close) renamed (crashAfter n)).outcome,
          [opened, written, renamed] ++
            (Process.andThen promote (fun _ => close) renamed (crashAfter n)).visited,
          (Process.andThen promote (fun _ => close) renamed (crashAfter n)).faults⟩ := by
      have hfirst : writeJournal (T.record .prepared) T.before (crashAfter (n + 3)) = _ :=
        hpass n [.crash]
      rw [hrun, Process.andThen_returned (a := ()) (by rw [hfirst]), hfirst]
      rfl
    rcases promote_cut hs n with ⟨j, hcutBefore, hj⟩ | ⟨hge, hcommits⟩
    · have hopening : j ≠ none ↔ Opening T.artifacts (n + 3) := by
        rw [hj, Opening]
        constructor
        · exact fun h => .inr (.inr ⟨h.1, by omega⟩)
        · rintro (h | h | h)
          · omega
          · omega
          · exact ⟨h.1, by omega⟩
      have hpromote : (Process.andThen promote (fun _ => close) renamed (crashAfter n)).visited =
            (promote renamed (crashAfter n)).visited := by
        cases ho : (promote renamed (crashAfter n)).outcome with
        | returned u => exact absurd ho (hcutBefore.outcome u)
        | raised e => rw [Process.andThen_raised ho]
        | crashed => rw [Process.andThen_crashed ho]
      refine ⟨.inl ⟨?_, j, ?_, hopening⟩⟩
      · rw [hr, hpromote]
        exact hfront.append hcutBefore.visited
      · rw [hr, hpromote]
        refine (congrArg (BeforeCommit T j) ?_).mpr hcutBefore.final
        let first : Ran (DerivedFiles Digest) Failure Unit :=
          ⟨.returned (), [opened, written, renamed], []⟩
        exact Ran.final_append _ first _ _ _
    · obtain ⟨front, t, hvisited, huncommitted, ht⟩ := hcommits.visited
      have hclose := finish_cut ht (crashing_crashAfter (n - (operations T.artifacts + 3)))
      have hfinal : (promote renamed (crashAfter n)).final renamed = t := by
        rw [Ran.final]
        rw [hvisited, List.getLastD_concat]
      have hall : (transact T.series T.id T.artifacts T.before (crashAfter (n + 3))).visited =
          ([opened, written, renamed] ++ front) ++ t ::
            (close t (crashAfter (n - (operations T.artifacts + 3)))).visited := by
        rw [hr, Process.andThen_returned hcommits.outcome, hfinal, hcommits.faults]
        change _ ++ ((Ran.visited _) ++ _) = _
        rw [hvisited]
        simp
      refine ⟨.inr ⟨⟨t, by rw [hall]; simp, ht⟩,
        Ran.final_of_visited_append hall (.inl ht) hclose, ?_⟩⟩
      rintro (h | h | h)
      · omega
      · omega
      · omega

end DerivedTransaction
end MarketData
end DryTrade
