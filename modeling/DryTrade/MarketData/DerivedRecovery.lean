import DryTrade.MarketData.DerivedTransaction

/-!
# Recovery of a derived dataset

While a transaction is PREPARED every target can be restored, from its backup if
there is one, and every operation of a rollback keeps it so; once it is COMMITTED
every target holds what was intended, and only temporaries and backups are removed.
Hence a recovery that was cut short leaves files on which the next one does the same.

## Main definitions

* `Transaction` — a transaction and the files it started from.
* `Restorable`, `Restored` — a target and its backup.
* `Undoable`, `Finishable`, `Settled` — the phases of a transaction a recovery meets.

## Main results

* `restore_keeps` — restoring under any faults.
* `recoverDerivedDataset_before`, `recoverDerivedDataset_after` — the recovery.
-/

namespace DryTrade
namespace MarketData
namespace DerivedTransaction

open FileSystem

variable {Digest : Type}

/-! ### Transactions -/

/-- A transaction, and the files it starts from: its record passes the checks, nothing carries
its fresh identifier, and every journal there is belongs to another dataset. -/
structure Transaction (Digest : Type) where
  series : DerivedSeries
  id : String
  artifacts : List (Artifact Digest)
  before : DerivedFiles Digest
  valid : (recordOf series id artifacts .prepared).validate id = .ok ()
  originals : ∀ a ∈ artifacts, a.hadOriginal = before.exist (.target series a.target)
  fresh : ∀ t, before.entry (.temporary series t id) = none ∧ before.entry (.backup series t id) = none
  unjournaled : before.entry (.journal id) = none ∧ before.entry (.journalTemporary id) = none
  others : ∀ other, before.entry (.journal other) ≠ none →
    ∃ r, before.read (.journal other) = some (.journal r) ∧ r.series ≠ series

namespace Transaction

variable (T : Transaction Digest)

/-- The targets, in the order of the artifacts. -/
def targets : List TargetName := T.artifacts.map (·.target)

/-- The record in a state. -/
def record (state : JournalState) : JournalRecord := recordOf T.series T.id T.artifacts state

/-- The files the transaction may change. -/
def Owns (n : DerivedFile) : Prop :=
  (∃ t ∈ T.targets, n = .target T.series t ∨ n = .temporary T.series t T.id ∨
    n = .backup T.series t T.id) ∨ n = .journal T.id ∨ n = .journalTemporary T.id

variable {T}

theorem owns_target {t : TargetName} (ht : t ∈ T.targets) : T.Owns (.target T.series t) :=
  .inl ⟨t, ht, .inl rfl⟩

theorem owns_temporary {t : TargetName} (ht : t ∈ T.targets) :
    T.Owns (.temporary T.series t T.id) := .inl ⟨t, ht, .inr (.inl rfl)⟩

theorem owns_backup {t : TargetName} (ht : t ∈ T.targets) : T.Owns (.backup T.series t T.id) :=
  .inl ⟨t, ht, .inr (.inr rfl)⟩

theorem owns_journal : T.Owns (.journal T.id) := .inr (.inl rfl)

theorem owns_journalTemporary : T.Owns (.journalTemporary T.id) := .inr (.inr rfl)

theorem not_owns_journal {other : String} (h : other ≠ T.id) : ¬ T.Owns (.journal other) := by
  rintro (⟨t, -, h' | h' | h'⟩ | h' | h')
  · cases h'
  · cases h'
  · cases h'
  · exact h (DerivedFile.journal.inj h')
  · cases h'

/-- The files of other targets belong to others. -/
theorem not_owns {t : TargetName} (ht : t ∉ T.targets) :
    ¬ T.Owns (.target T.series t) ∧ ¬ T.Owns (.temporary T.series t T.id) ∧
      ¬ T.Owns (.backup T.series t T.id) := by
  refine ⟨?_, ?_, ?_⟩
  · rintro (⟨t', ht', h | h | h⟩ | h | h) <;> cases h
    exact ht ht'
  · rintro (⟨t', ht', h | h | h⟩ | h | h) <;> cases h
    exact ht ht'
  · rintro (⟨t', ht', h | h | h⟩ | h | h) <;> cases h
    exact ht ht'

/-- A record is checked the same in both states. -/
theorem record_valid (T : Transaction Digest) (state : JournalState) :
    (T.record state).validate T.id = .ok () := T.valid

end Transaction

theorem validateArtifacts_nodup {artifacts : List JournalArtifact} :
    ∀ {seen : List TargetName}, validateArtifacts seen artifacts = .ok () →
      (artifacts.map (·.target)).Nodup ∧ ∀ a ∈ artifacts, a.target ∉ seen := by
  induction artifacts with
  | nil => exact fun _ => ⟨List.nodup_nil, fun _ h => (List.not_mem_nil h).elim⟩
  | cons a artifacts ih =>
    intro seen h
    simp only [validateArtifacts, bind_eq_ok, FailureKind.unless_eq_ok, exists_const,
      Bool.not_eq_true', List.contains_eq_mem, decide_eq_false_iff_not] at h
    obtain ⟨hseen, -, -, hrest⟩ := h
    obtain ⟨hnodup, hunseen⟩ := ih hrest
    refine ⟨List.nodup_cons.mpr ⟨fun hmem => ?_, hnodup⟩, fun b hb => ?_⟩
    · obtain ⟨b, hb, heq⟩ := List.mem_map.mp hmem
      exact hunseen b hb (heq ▸ List.mem_cons_self)
    · rcases List.mem_cons.mp hb with rfl | hb
      · exact hseen
      · exact fun hmem => hunseen b hb (List.mem_cons_of_mem _ hmem)

/-- The targets are different. -/
theorem Transaction.targets_nodup (T : Transaction Digest) : T.targets.Nodup := by
  have h := T.valid
  simp only [JournalRecord.validate, bind_eq_ok, FailureKind.unless_eq_ok, exists_const] at h
  obtain ⟨-, -, ⟨⟩, hartifacts, -⟩ := h
  have hnodup := (validateArtifacts_nodup hartifacts).1
  simpa [Transaction.targets, recordOf, Artifact.journaled, Function.comp_def] using hnodup

/-! ### Targets and backups -/

/-- The target can be brought back to what it was. -/
def Restorable (T : Transaction Digest) (t : TargetName) (fs : DerivedFiles Digest) : Prop :=
  (fs.entry (.backup T.series t T.id) = none ∧
      (T.before.entry (.target T.series t) = none ∨
        fs.entry (.target T.series t) = T.before.entry (.target T.series t))) ∨
    (T.before.entry (.target T.series t) ≠ none ∧
      fs.entry (.backup T.series t T.id) = T.before.entry (.target T.series t))

/-- The target is what it was, without a backup. -/
def Restored (T : Transaction Digest) (t : TargetName) (fs : DerivedFiles Digest) : Prop :=
  fs.entry (.target T.series t) = T.before.entry (.target T.series t) ∧
    fs.entry (.backup T.series t T.id) = none

section

variable {T : Transaction Digest} {t : TargetName} {S : DerivedFile → Prop}
  {fs : DerivedFiles Digest}

theorem Restored.restorable (h : Restored T t fs) : Restorable T t fs := .inl ⟨h.2, .inr h.1⟩

theorem stable_restorable (ht : ¬ S (.target T.series t)) (hb : ¬ S (.backup T.series t T.id)) :
    Stable S (Restorable T t) := by
  intro fs fs' h hchange
  unfold Restorable
  rwa [hchange.entry _ ht, hchange.entry _ hb]

theorem stable_restored (ht : ¬ S (.target T.series t)) (hb : ¬ S (.backup T.series t T.id)) :
    Stable S (Restored T t) := by
  intro fs fs' h hchange
  unfold Restored
  rwa [hchange.entry _ ht, hchange.entry _ hb]

end

/-! ### Operations -/

section

variable {A : Fault → Prop} {P I : DerivedFiles Digest → Prop}
  {Q : Unit → DerivedFiles Digest → Prop}

/-- Removing a name. -/
theorem keeps_unlink {file : DerivedFile} (hP : ∀ fs, P fs → I fs)
    (hstep : ∀ fs, P fs → ChangesOnly (· = file) fs (fs.unlink file) →
      (fs.unlink file).entry file = none → I (fs.unlink file) ∧ Q () (fs.unlink file)) :
    Process.Keeps A P (unlink file) I Q :=
  Process.Keeps.act hP fun fs hfs => ⟨_, rfl,
    hstep fs hfs (changesOnly_unlink fs file) (entry_unlink_self fs file)⟩

/-- Moving a name that is there over another inode. -/
theorem keeps_replaceFile {src dst : DerivedFile} (hne : src ≠ dst) (hP : ∀ fs, P fs → I fs)
    (hsrc : ∀ fs, P fs → ∃ i, fs.entry src = some i ∧ fs.entry dst ≠ some i)
    (hstep : ∀ fs fs', P fs → ChangesOnly (fun n => n = src ∨ n = dst) fs fs' →
      fs'.entry dst = fs.entry src → fs'.entry src = none → I fs' ∧ Q () fs') :
    Process.Keeps A P (replaceFile src dst) I Q := by
  refine Process.Keeps.act hP fun fs hfs => ?_
  obtain ⟨i, hi, hdst⟩ := hsrc fs hfs
  obtain ⟨fs', heq, hchange, hdst', hsrc'⟩ := exists_replace hne hi hdst
  exact ⟨fs', heq, hstep fs fs' hfs hchange (hdst'.trans hi.symm) hsrc'⟩

/-- A second name for a file that is there. -/
theorem keeps_link {src dst : DerivedFile} (hP : ∀ fs, P fs → I fs)
    (hsrc : ∀ fs, P fs → fs.entry src ≠ none ∧ fs.entry dst = none)
    (hstep : ∀ fs fs', P fs → ChangesOnly (· = dst) fs fs' → fs'.entry dst = fs.entry src →
      I fs' ∧ Q () fs') :
    Process.Keeps A P (link src dst) I Q := by
  refine Process.Keeps.act hP fun fs hfs => ?_
  obtain ⟨hsome, hdst⟩ := hsrc fs hfs
  obtain ⟨i, hi⟩ := Option.ne_none_iff_exists'.mp hsome
  obtain ⟨fs', heq, hchange, hdst'⟩ := exists_link hi hdst
  exact ⟨fs', heq, hstep fs fs' hfs hchange (hdst'.trans hi.symm)⟩

end

section

variable {T : Transaction Digest} {A : Fault → Prop} {t : TargetName}

/-- **Restoring a target** keeps it restorable at every step, and leaves it restored; an
assertion about other files stays true. -/
theorem restore_keeps {F : DerivedFiles Digest → Prop} {hadOriginal : Bool}
    (horiginal : hadOriginal = T.before.exist (.target T.series t))
    (hF : Stable (fun n => n = .target T.series t ∨ n = .backup T.series t T.id) F) :
    Process.Keeps A (fun fs => Restorable T t fs ∧ F fs) (restore T.series T.id t hadOriginal)
      (fun fs => Restorable T t fs ∧ F fs) (fun _ fs => Restored T t fs ∧ F fs) := by
  refine Process.Meets.bind
    (M := fun s fs => fs = s ∧ Restorable T t fs ∧ F fs)
    (Process.Meets.read fun fs hfs => ⟨rfl, hfs⟩) fun s => ?_
  by_cases hbackup : s.exist (.backup T.series t T.id) = true
  · -- The backup is there, so it is the original.
    rw [if_pos hbackup]
    refine Process.Meets.bind
      (M := fun _ fs => (T.before.entry (.target T.series t) ≠ none ∧
        fs.entry (.backup T.series t T.id) = T.before.entry (.target T.series t) ∧
        fs.entry (.target T.series t) = none) ∧ F fs)
      (keeps_unlink ?_ ?_) fun _ => keeps_replaceFile (by simp) ?_ ?_ ?_
    · rintro _ ⟨rfl, h⟩
      exact h
    · rintro fs ⟨rfl, ⟨hnone, -⟩ | ⟨hsome, heq⟩, hfs⟩ hchange hgone
      · exact absurd hnone (exist_eq.mp hbackup)
      · have heq' := (hchange.entry (.backup T.series t T.id) (by simp)).trans heq
        have hfs' := hF _ _ hfs (hchange.mono fun _ h => .inl h)
        exact ⟨⟨.inr ⟨hsome, heq'⟩, hfs'⟩, ⟨hsome, heq', hgone⟩, hfs'⟩
    · rintro fs ⟨⟨hsome, heq, -⟩, hfs⟩
      exact ⟨.inr ⟨hsome, heq⟩, hfs⟩
    · rintro fs ⟨⟨hsome, heq, hgone⟩, -⟩
      obtain ⟨i, hi⟩ := Option.ne_none_iff_exists'.mp hsome
      exact ⟨i, heq.trans hi, by rw [hgone]; simp⟩
    · rintro fs fs' ⟨⟨-, heq, -⟩, hfs⟩ hchange hdst hsrc
      have hfs' := hF _ _ hfs (hchange.mono fun _ h => h.symm)
      have hrestored : Restored T t fs' := ⟨hdst.trans heq, hsrc⟩
      exact ⟨⟨hrestored.restorable, hfs'⟩, hrestored, hfs'⟩
  · -- Without a backup only a target that had no original is removed.
    rw [if_neg hbackup]
    have hnone : s.entry (.backup T.series t T.id) = none := by
      simpa [exist] using hbackup
    cases hadOriginal with
    | true =>
      rw [if_pos rfl]
      refine Process.Meets.pure ?_
      rintro _ ⟨rfl, ⟨-, hnil | htarget⟩ | ⟨hsome, heq⟩, hfs⟩
      · exact absurd hnil (exist_eq.mp horiginal.symm)
      · exact ⟨⟨htarget, hnone⟩, hfs⟩
      · exact absurd (heq.symm.trans hnone) hsome
    | false =>
      rw [if_neg (by simp)]
      have hnil : T.before.entry (.target T.series t) = none := by
        simpa [exist] using horiginal.symm
      refine keeps_unlink ?_ ?_
      · rintro _ ⟨rfl, h⟩
        exact h
      · rintro fs ⟨rfl, -, hfs⟩ hchange hgone
        have hrestored : Restored T t (fs.unlink (.target T.series t)) :=
          ⟨hgone.trans hnil.symm, (hchange.entry _ (by simp)).trans hnone⟩
        have hfs' := hF _ _ hfs (hchange.mono fun _ h => .inl h)
        exact ⟨⟨hrestored.restorable, hfs'⟩, hrestored, hfs'⟩

end

/-! ### The phases of a transaction -/

/-- The journal says PREPARED, and every target can be restored; `incomplete` is the temporary of
the journal. -/
structure Undoable (T : Transaction Digest) (incomplete : Option ℕ) (fs : DerivedFiles Digest) :
    Prop where
  frame : ChangesOnly T.Owns T.before fs
  restorable : ∀ t ∈ T.targets, Restorable T t fs
  journal : fs.read (.journal T.id) = some (.journal (T.record .prepared))
  incomplete : fs.entry (.journalTemporary T.id) = incomplete

/-- The journal says COMMITTED, and every target holds what was intended. -/
structure Finishable (T : Transaction Digest) (fs : DerivedFiles Digest) : Prop where
  frame : ChangesOnly T.Owns T.before fs
  promoted : ∀ a ∈ T.artifacts, fs.read (.target T.series a.target) = a.payload.content
  journal : fs.read (.journal T.id) = some (.journal (T.record .committed))
  incomplete : fs.entry (.journalTemporary T.id) = none

/-- The transaction is over, and its targets hold `value`. -/
structure Settled (T : Transaction Digest)
    (value : TargetName → Option (DerivedContent Digest)) (incomplete : Option ℕ)
    (fs : DerivedFiles Digest) : Prop where
  frame : ChangesOnly T.Owns T.before fs
  targets : ∀ t ∈ T.targets, fs.read (.target T.series t) = value t
  removed : ∀ t ∈ T.targets, fs.entry (.temporary T.series t T.id) = none ∧
    fs.entry (.backup T.series t T.id) = none
  journal : fs.entry (.journal T.id) = none
  incomplete : fs.entry (.journalTemporary T.id) = incomplete

/-- What the targets were. -/
def Transaction.original (T : Transaction Digest) (t : TargetName) :
    Option (DerivedContent Digest) := T.before.read (.target T.series t)

/-- What the targets are to be. -/
def Transaction.intended (T : Transaction Digest) (t : TargetName) :
    Option (DerivedContent Digest) :=
  match T.artifacts.find? fun a => a.target == t with
  | some a => a.payload.content
  | none => T.original t

theorem Transaction.intended_of_mem {T : Transaction Digest} {a : Artifact Digest}
    (ha : a ∈ T.artifacts) : T.intended a.target = a.payload.content := by
  unfold Transaction.intended
  split
  · next b hb =>
    have htarget : b.target = a.target := by simpa using List.find?_some hb
    rw [List.inj_on_of_nodup_map T.targets_nodup (List.mem_of_find?_eq_some hb) ha htarget]
  · next hnone =>
    have hnot := List.find?_eq_none.mp hnone a ha
    simp at hnot

section

variable {T : Transaction Digest} {j : Option ℕ} {S : DerivedFile → Prop}

theorem stable_undoable (hS : ∀ n, S n → T.Owns n) (ht : ∀ t ∈ T.targets,
      ¬ S (.target T.series t) ∧ ¬ S (.backup T.series t T.id))
    (hjournal : ¬ S (.journal T.id)) (hincomplete : ¬ S (.journalTemporary T.id)) :
    Stable S (Undoable T j) := fun _ _ h hchange =>
  ⟨stable_changesOnly hS _ _ h.frame hchange,
    fun t hmem => stable_restorable (ht t hmem).1 (ht t hmem).2 _ _ (h.restorable t hmem) hchange,
    (hchange.read hjournal).trans h.journal, (hchange.entry _ hincomplete).trans h.incomplete⟩

theorem stable_finishable (hS : ∀ n, S n → T.Owns n)
    (ht : ∀ t ∈ T.targets, ¬ S (.target T.series t)) (hjournal : ¬ S (.journal T.id))
    (hincomplete : ¬ S (.journalTemporary T.id)) : Stable S (Finishable T) :=
  fun _ _ h hchange =>
  ⟨stable_changesOnly hS _ _ h.frame hchange,
    fun a ha => (hchange.read (ht _ (List.mem_map_of_mem ha))).trans (h.promoted a ha),
    (hchange.read hjournal).trans h.journal, (hchange.entry _ hincomplete).trans h.incomplete⟩

end

/-- Before the commit: the transaction can be undone, or is. -/
def BeforeCommit (T : Transaction Digest) (incomplete : Option ℕ) (fs : DerivedFiles Digest) :
    Prop := Undoable T incomplete fs ∨ Settled T T.original incomplete fs

/-- After the commit: the transaction can be finished, or is. -/
def AfterCommit (T : Transaction Digest) (fs : DerivedFiles Digest) : Prop :=
  Finishable T fs ∨ Settled T T.intended none fs

/-! ### Undoing and finishing -/

section

variable {T : Transaction Digest} {A : Fault → Prop} {j : Option ℕ}

theorem target_mem {a : JournalArtifact} (ha : a ∈ T.artifacts.map Artifact.journaled) :
    a.target ∈ T.targets ∧ a.hadOriginal = T.before.exist (.target T.series a.target) := by
  obtain ⟨b, hb, rfl⟩ := List.mem_map.mp ha
  exact ⟨List.mem_map_of_mem hb, T.originals b hb⟩

/-- Everything an undoable transaction says of other files than those of one target. -/
structure UndoableElsewhere (T : Transaction Digest) (j : Option ℕ) (x : TargetName)
    (fs : DerivedFiles Digest) : Prop where
  frame : ChangesOnly T.Owns T.before fs
  restorable : ∀ t ∈ T.targets, t ≠ x → Restorable T t fs
  journal : fs.read (.journal T.id) = some (.journal (T.record .prepared))
  incomplete : fs.entry (.journalTemporary T.id) = j

theorem Undoable.elsewhere {x : TargetName} {fs : DerivedFiles Digest} (h : Undoable T j fs) :
    UndoableElsewhere T j x fs :=
  ⟨h.frame, fun t ht _ => h.restorable t ht, h.journal, h.incomplete⟩

theorem UndoableElsewhere.undoable {x : TargetName} {fs : DerivedFiles Digest}
    (h : UndoableElsewhere T j x fs) (hx : Restorable T x fs) : Undoable T j fs := by
  refine ⟨h.frame, fun t ht => ?_, h.journal, h.incomplete⟩
  by_cases hne : t = x
  · exact hne ▸ hx
  · exact h.restorable t ht hne

theorem stable_undoableElsewhere {x : TargetName} (hx : x ∈ T.targets) :
    Stable (fun n => n = .target T.series x ∨ n = .temporary T.series x T.id ∨
      n = .backup T.series x T.id) (UndoableElsewhere T j x) := by
  intro fs fs' h hchange
  have howned : ∀ n, (n = .target T.series x ∨ n = .temporary T.series x T.id ∨
      n = .backup T.series x T.id) → T.Owns n := by
    rintro n (rfl | rfl | rfl)
    · exact Transaction.owns_target hx
    · exact Transaction.owns_temporary hx
    · exact Transaction.owns_backup hx
  exact ⟨stable_changesOnly howned _ _ h.frame hchange,
    fun t ht hne => stable_restorable (by simp [hne]) (by simp [hne]) _ _ (h.restorable t ht hne)
      hchange, (hchange.read (by simp)).trans h.journal,
    (hchange.entry _ (by simp)).trans h.incomplete⟩

/-- Restoring a target of an undoable transaction. -/
theorem restore_undoable {G : DerivedFiles Digest → Prop} {x : TargetName} {hadOriginal : Bool}
    (hx : x ∈ T.targets) (horiginal : hadOriginal = T.before.exist (.target T.series x))
    (hG : Stable (fun n => n = .target T.series x ∨ n = .backup T.series x T.id) G) :
    Process.Keeps A (fun fs => Undoable T j fs ∧ G fs) (restore T.series T.id x hadOriginal)
      (Undoable T j) (fun _ fs => Undoable T j fs ∧ Restored T x fs ∧ G fs) := by
  have hF : Stable (fun n => n = .target T.series x ∨ n = .backup T.series x T.id)
      fun fs => UndoableElsewhere T j x fs ∧ G fs :=
    ((stable_undoableElsewhere hx).mono fun n hn => hn.imp id .inr).and hG
  refine Process.Keeps.weaken (restore_keeps horiginal hF) ?_ ?_ ?_
  · exact fun fs h => ⟨h.1.restorable x hx, h.1.elsewhere, h.2⟩
  · exact fun fs h => h.2.1.undoable h.1
  · exact fun _ fs h => ⟨h.2.1.undoable h.1.restorable, h.1, h.2.2⟩

/-- **Undoing every artifact.** -/
theorem rollbackArtifacts_keeps :
    Process.Keeps A (Undoable T j)
      (rollbackArtifacts T.series T.id (T.artifacts.map Artifact.journaled)) (Undoable T j)
      (fun _ fs => Undoable T j fs ∧ ∀ t ∈ T.targets,
        Restored T t fs ∧ fs.entry (.temporary T.series t T.id) = none) := by
  -- What is done stays done while another target is worked on.
  let J : List JournalArtifact → DerivedFiles Digest → Prop := fun done fs =>
    Undoable T j fs ∧ ∀ a ∈ done,
      Restored T a.target fs ∧ fs.entry (.temporary T.series a.target T.id) = none
  have hloop : Process.Keeps A (J [])
      (rollbackArtifacts T.series T.id (T.artifacts.map Artifact.journaled)) (Undoable T j)
      (fun _ => J (T.artifacts.map Artifact.journaled).reverse) := by
    refine Process.Meets.forEach fun done x rest hsplit => ?_
    have hx : x ∈ T.artifacts.map Artifact.journaled := by
      rw [← List.mem_reverse, hsplit]
      simp
    obtain ⟨hmem, horiginal⟩ := target_mem hx
    have hdone : ∀ a ∈ done, a.target ≠ x.target := by
      have hnodup : ((T.artifacts.map Artifact.journaled).reverse.map (·.target)).Nodup := by
        rw [List.map_reverse, List.nodup_reverse]
        simpa [Transaction.targets, Artifact.journaled, Function.comp_def] using T.targets_nodup
      rw [hsplit, List.map_append, List.nodup_append] at hnodup
      exact fun a ha => hnodup.2.2 _ (List.mem_map_of_mem ha) _ (by simp)
    have hstable : Stable (· = DerivedFile.temporary T.series x.target T.id) (Undoable T j) :=
      stable_undoable (fun n hn => hn ▸ Transaction.owns_temporary hmem) (by simp) (by simp)
        (by simp)
    have hG : Stable (fun n => n = .target T.series x.target ∨ n = .backup T.series x.target T.id)
        fun fs => ∀ a ∈ done,
          Restored T a.target fs ∧ fs.entry (.temporary T.series a.target T.id) = none :=
      Stable.forall fun a => Stable.imp fun ha =>
        (stable_restored (by simp [hdone a ha]) (by simp [hdone a ha])).and
          (stable_entry (by simp [hdone a ha]))
    refine Process.Meets.bind (restore_undoable hmem horiginal hG) fun _ =>
      keeps_unlink (fun fs h => h.1) ?_
    rintro fs ⟨hundoable, hxfs, hfs⟩ hchange hgone
    have hundo := hstable _ _ hundoable hchange
    refine ⟨hundo, hundo, fun a ha => ?_⟩
    have hrestored : ∀ t, Stable (· = DerivedFile.temporary T.series x.target T.id)
        (Restored T t) := fun t => stable_restored (by simp) (by simp)
    rcases List.mem_append.mp ha with ha | ha
    · exact ⟨hrestored _ _ _ (hfs a ha).1 hchange,
        (hchange.entry _ (by simp [hdone a ha])).trans (hfs a ha).2⟩
    · rw [List.mem_singleton.mp ha]
      exact ⟨hrestored _ _ _ hxfs hchange, hgone⟩
  refine hloop.weaken (fun fs h => ⟨h, by simp⟩) (fun _ h => h) fun _ fs h => ⟨h.1, fun t ht => ?_⟩
  obtain ⟨a, ha, rfl⟩ := List.mem_map.mp ht
  exact h.2 a.journaled (List.mem_reverse.mpr (List.mem_map_of_mem ha))

/-- **Undoing the transaction.** -/
theorem abandon_keeps :
    Process.Keeps A (Undoable T j) (abandon T.series T.id (T.artifacts.map Artifact.journaled))
      (BeforeCommit T j) (fun _ => Settled T T.original j) := by
  refine Process.Meets.bind
    (Process.Keeps.weaken rollbackArtifacts_keeps (fun _ h => h) (fun _ h => .inl h)
      fun _ _ h => h) fun _ => keeps_unlink (fun _ h => .inl h.1) fun fs h hchange hgone => ?_
  have hsettled : Settled T T.original j (fs.unlink (.journal T.id)) := by
    have hframe := h.1.frame.trans (hchange.mono fun n hn => hn ▸ Transaction.owns_journal)
    refine ⟨hframe, fun t ht => ?_, fun t ht => ?_, hgone, ?_⟩
    · exact hframe.read_of_entry ((hchange.entry _ (by simp)).trans (h.2 t ht).1.1)
    · exact ⟨(hchange.entry _ (by simp)).trans (h.2 t ht).2,
        (hchange.entry _ (by simp)).trans (h.2 t ht).1.2⟩
    · exact (hchange.entry _ (by simp)).trans h.1.incomplete
  exact ⟨.inr hsettled, hsettled⟩

/-- **Finishing the transaction.** -/
theorem finish_keeps :
    Process.Keeps A (Finishable T) (finish T.series T.id (T.artifacts.map Artifact.journaled))
      (AfterCommit T) (fun _ => Settled T T.intended none) := by
  have hcleanup : Process.Keeps A (Finishable T)
      (cleanupArtifacts T.series T.id (T.artifacts.map Artifact.journaled)) (AfterCommit T)
      (fun _ fs => Finishable T fs ∧ ∀ a ∈ T.artifacts.map Artifact.journaled,
        fs.entry (.temporary T.series a.target T.id) = none ∧
          fs.entry (.backup T.series a.target T.id) = none) := by
    let J : List JournalArtifact → DerivedFiles Digest → Prop := fun done fs =>
      Finishable T fs ∧ ∀ a ∈ done, fs.entry (.temporary T.series a.target T.id) = none ∧
        fs.entry (.backup T.series a.target T.id) = none
    have hloop : Process.Keeps A (J [])
        (cleanupArtifacts T.series T.id (T.artifacts.map Artifact.journaled)) (Finishable T)
        (fun _ => J (T.artifacts.map Artifact.journaled)) := by
      refine Process.Meets.forEach fun done x rest hsplit => ?_
      have hmem := (target_mem (a := x) (by rw [hsplit]; simp)).1
      refine Process.Meets.bind
        (M := fun _ fs => J done fs ∧ fs.entry (.temporary T.series x.target T.id) = none)
        (keeps_unlink (fun _ h => h.1) fun fs h hchange hgone => ?_)
        fun _ => keeps_unlink (fun _ h => h.1.1) fun fs h hchange hgone => ?_
      · have hfinish := stable_finishable (S := (· = .temporary T.series x.target T.id))
          (fun n hn => hn ▸ Transaction.owns_temporary hmem) (by simp) (by simp) (by simp) _ _
          h.1 hchange
        refine ⟨hfinish, ⟨hfinish, fun a ha => ⟨?_, ?_⟩⟩, hgone⟩
        · by_cases hax : a.target = x.target
          · rw [hax, hgone]
          · exact (hchange.entry _ (by simp [hax])).trans (h.2 a ha).1
        · exact (hchange.entry _ (by simp)).trans (h.2 a ha).2
      · have hfinish := stable_finishable (S := (· = .backup T.series x.target T.id))
          (fun n hn => hn ▸ Transaction.owns_backup hmem) (by simp) (by simp) (by simp) _ _
          h.1.1 hchange
        refine ⟨hfinish, hfinish, fun a ha => ?_⟩
        rcases List.mem_append.mp ha with ha | ha
        · refine ⟨(hchange.entry _ (by simp)).trans (h.1.2 a ha).1, ?_⟩
          by_cases hax : a.target = x.target
          · rw [hax, hgone]
          · exact (hchange.entry _ (by simp [hax])).trans (h.1.2 a ha).2
        · rw [List.mem_singleton.mp ha]
          exact ⟨(hchange.entry _ (by simp)).trans h.2, hgone⟩
    exact hloop.weaken (fun fs h => ⟨h, by simp⟩) (fun _ h => .inl h) fun _ _ h => h
  refine Process.Meets.bind hcleanup fun _ =>
    keeps_unlink (fun _ h => .inl h.1) fun fs h hchange hgone => ?_
  have hsettled : Settled T T.intended none (fs.unlink (.journal T.id)) := by
    refine ⟨h.1.frame.trans (hchange.mono fun n hn => hn ▸ Transaction.owns_journal),
      fun t ht => ?_, fun t ht => ?_, hgone, (hchange.entry _ (by simp)).trans h.1.incomplete⟩
    · obtain ⟨a, ha, rfl⟩ := List.mem_map.mp ht
      rw [hchange.read (by simp), h.1.promoted a ha, Transaction.intended_of_mem ha]
    · obtain ⟨a, ha, rfl⟩ := List.mem_map.mp ht
      obtain ⟨htemporary, hbackup⟩ := h.2 a.journaled (List.mem_map_of_mem ha)
      exact ⟨(hchange.entry _ (by simp)).trans htemporary,
        (hchange.entry _ (by simp)).trans hbackup⟩
  exact ⟨.inr hsettled, hsettled⟩

end

/-! ### The recovery -/

section

variable {T : Transaction Digest} {A : Fault → Prop} {P : DerivedFiles Digest → Prop}

/-- A journal that is gone, or of another dataset, is passed over. -/
theorem recoverJournal_skip {other : String}
    (h : ∀ fs, P fs → fs.read (.journal other) = none ∨
      ∃ r, fs.read (.journal other) = some (.journal r) ∧ r.series ≠ T.series) :
    Process.Keeps A P (recoverJournal T.series other) P (fun _ => P) := by
  refine Process.Meets.of_eq fun s hs => Process.Meets.bind (M := fun s' fs => s' = s ∧ fs = s)
    (Process.Meets.read fun fs hfs => ⟨hfs, hfs⟩) fun s' => ?_
  by_cases hss : s' = s
  · subst hss
    rcases h s' hs with hnone | ⟨r, hr, hne⟩
    · rw [hnone]
      exact Process.Meets.pure fun fs hfs => hfs.2 ▸ hs
    · rw [hr]
      simp only [if_neg hne]
      exact Process.Meets.pure fun fs hfs => hfs.2 ▸ hs
  · exact fun fs _ hfs => absurd hfs.1 hss

/-- The journal of another transaction is of another dataset. -/
theorem other_journal {fs : DerivedFiles Digest} (hframe : ChangesOnly T.Owns T.before fs)
    {other : String} (hne : other ≠ T.id) : fs.read (.journal other) = none ∨
      ∃ r, fs.read (.journal other) = some (.journal r) ∧ r.series ≠ T.series := by
  rw [hframe.read (Transaction.not_owns_journal hne)]
  by_cases hnone : T.before.entry (.journal other) = none
  · exact .inl (read_eq_none.mpr hnone)
  · exact .inr (T.others other hnone)

/-- The journal of the transaction is recovered by what its state asks for. -/
theorem recoverJournal_own {Q : Unit → DerivedFiles Digest → Prop} {I : DerivedFiles Digest → Prop}
    {state : JournalState}
    (hP : ∀ fs, P fs → fs.read (.journal T.id) = some (.journal (T.record state)))
    (h : Process.Keeps A P (match state with
      | .prepared => abandon T.series T.id (T.artifacts.map Artifact.journaled)
      | .committed => finish T.series T.id (T.artifacts.map Artifact.journaled)) I Q) :
    Process.Keeps A P (recoverJournal T.series T.id) I Q := by
  intro fs faults hfs hfaults
  have hread := hP fs hfs
  have hrun : recoverJournal T.series T.id fs faults = (match state with
      | .prepared => abandon T.series T.id (T.artifacts.map Artifact.journaled)
      | .committed => finish T.series T.id (T.artifacts.map Artifact.journaled)) fs faults := by
    have hseries : (T.record state).series = T.series := rfl
    have hstate : (T.record state).state = state := rfl
    unfold recoverJournal recoverPathLocked
    rw [Process.read_bind_apply]
    simp only [hread, hseries, if_true]
    rw [Process.read_bind_apply]
    simp only [hread, hseries, if_true, T.record_valid, ofExcept]
    cases state <;> rfl
  rw [hrun]
  exact h fs faults hfs hfaults

theorem mem_pendingJournals {fs : DerivedFiles Digest} {id : String} :
    id ∈ pendingJournals fs ↔ fs.entry (.journal id) ≠ none := by
  unfold pendingJournals
  rw [(List.perm_insertionSort _ _).mem_iff, List.mem_filterMap, ← mem_names]
  constructor
  · rintro ⟨n, hn, hid⟩
    split at hid
    · cases hid
      exact hn
    · cases hid
  · exact fun h => ⟨_, h, rfl⟩

/-- **The recovery of the dataset**, from a phase in which the journal of the transaction is there
to the end of the transaction. -/
theorem recoverDerivedDataset_keeps {Phase Done : DerivedFiles Digest → Prop}
    (hphase : ∀ fs, Phase fs → ChangesOnly T.Owns T.before fs ∧ fs.entry (.journal T.id) ≠ none)
    (hdone : ∀ fs, Done fs → ChangesOnly T.Owns T.before fs ∧ fs.entry (.journal T.id) = none)
    (hown : Process.Keeps A Phase (recoverJournal T.series T.id) (fun fs => Phase fs ∨ Done fs)
      fun _ => Done) :
    Process.Keeps A (fun fs => Phase fs ∨ Done fs) (recoverDerivedDataset T.series)
      (fun fs => Phase fs ∨ Done fs) (fun _ => Done) := by
  refine Process.Meets.bind
    (M := fun s fs => Phase fs ∧ T.id ∈ pendingJournals s ∨ Done fs)
    (Process.Meets.read fun fs hfs => hfs.imp
      (fun h => ⟨h, mem_pendingJournals.mpr (hphase fs h).2⟩) id) fun s => ?_
  have hskip : ∀ other, other ≠ T.id → Process.Keeps A Phase (recoverJournal T.series other) Phase
      (fun _ => Phase) :=
    fun other hne => recoverJournal_skip fun fs hfs => other_journal (hphase fs hfs).1 hne
  have hover : ∀ other, Process.Keeps A Done (recoverJournal T.series other) Done
      (fun _ => Done) := by
    refine fun other => recoverJournal_skip fun fs hfs => ?_
    by_cases hne : other = T.id
    · exact .inl (by rw [hne, read_eq_none, (hdone fs hfs).2])
    · exact other_journal (hdone fs hfs).1 hne
  by_cases hmem : T.id ∈ pendingJournals s
  · have hloop : Process.Keeps A (fun fs => Phase fs ∧ T.id ∉ ([] : List String) ∨ Done fs)
        (Process.forEach (pendingJournals s) (recoverJournal T.series))
        (fun fs => Phase fs ∨ Done fs)
        (fun _ fs => Phase fs ∧ T.id ∉ pendingJournals s ∨ Done fs) := by
      refine Process.Meets.forEach (J := fun done fs => Phase fs ∧ T.id ∉ done ∨ Done fs)
        fun done other rest _ => Process.Meets.or ?_ ?_
      · by_cases hother : other = T.id
        · subst hother
          exact Process.Keeps.weaken hown (fun _ h => h.1) (fun _ h => h) fun _ _ h => .inr h
        · by_cases hseen : T.id ∈ done
          · exact fun fs _ h => absurd hseen h.2
          · have hnot : T.id ∉ done ++ [other] := by
              rw [List.mem_append, List.mem_singleton]
              exact fun h => h.elim hseen fun h => hother h.symm
            exact Process.Keeps.weaken (hskip other hother) (fun _ h => h.1) (fun _ h => .inl h)
              fun _ _ h => .inl ⟨h, hnot⟩
      · exact Process.Keeps.weaken (hover other) (fun _ h => h) (fun _ h => .inr h)
          fun _ _ h => .inr h
    exact hloop.weaken (fun fs h => h.imp (fun h => ⟨h.1, by simp⟩) id) (fun _ h => h)
      fun _ fs h => h.resolve_left fun h => h.2 hmem
  · have hloop : Process.Keeps A Done (Process.forEach (pendingJournals s)
        (recoverJournal T.series)) Done (fun _ => Done) :=
      Process.Meets.forEach (J := fun _ => Done) fun done other rest _ => hover other
    exact hloop.weaken (fun fs h => h.resolve_left fun h => hmem h.2) (fun _ h => .inr h)
      fun _ _ h => h

/-- **Before the commit** a recovery undoes the transaction. -/
theorem recoverDerivedDataset_before {j : Option ℕ} :
    Process.Keeps A (BeforeCommit T j) (recoverDerivedDataset T.series) (BeforeCommit T j)
      (fun _ => Settled T T.original j) :=
  recoverDerivedDataset_keeps
    (fun _ h => ⟨h.frame, fun hnone => by
      have hread := h.journal
      rw [read_eq_none.mpr hnone] at hread
      cases hread⟩)
    (fun _ h => ⟨h.frame, h.journal⟩)
    (recoverJournal_own (fun _ h => h.journal) abandon_keeps)

/-- **After the commit** a recovery finishes the transaction. -/
theorem recoverDerivedDataset_after :
    Process.Keeps A (AfterCommit T) (recoverDerivedDataset T.series) (AfterCommit T)
      (fun _ => Settled T T.intended none) :=
  recoverDerivedDataset_keeps
    (fun _ h => ⟨h.frame, fun hnone => by
      have hread := h.journal
      rw [read_eq_none.mpr hnone] at hread
      cases hread⟩)
    (fun _ h => ⟨h.frame, h.journal⟩)
    (recoverJournal_own (fun _ h => h.journal) finish_keeps)

end

end DerivedTransaction
end MarketData
end DryTrade
