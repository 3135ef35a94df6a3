import DryTrade.MarketData.DerivedRecovery

/-!
# Preparing and promoting the artifacts of a derived dataset

Until the journal becomes COMMITTED, whatever operation of the protocol is cut or
raises leaves an undoable transaction.  The temporary of an artifact is a new inode,
so that a rename over its target never meets two names of one inode.

## Main definitions

* `Prepared`, `Waiting` — an artifact that was written, and one not yet promoted.
* `operations` — how many operations prepare and promote every artifact.

## Main results

* `prepareArtifacts_meets`, `promoteArtifacts_keeps` — the two loops under any faults.
* `writeJournal_keeps` — writing a journal.
* `takes_artifacts` — the operations of the two loops.
-/

namespace DryTrade
namespace MarketData
namespace DerivedTransaction

open FileSystem

variable {Digest : Type} {T : Transaction Digest} {A : Fault → Prop}

/-- Writing a new file, when nothing else is known to depend on it. -/
theorem writeFile_keeps {P I : DerivedFiles Digest → Prop} {Q : Unit → DerivedFiles Digest → Prop}
    {file : DerivedFile} {content : DerivedContent Digest} (hP : ∀ fs, P fs → I fs)
    (hfree : ∀ fs, P fs → fs.entry file = none)
    (hopen : ∀ fs fs', P fs → ChangesOnly (· = file) fs fs' → I fs')
    (hwrite : ∀ fs fs', P fs → ChangesOnly (· = file) fs fs' →
      fs'.entry file = some fs.inodes.length → fs'.read file = some content → I fs' ∧ Q () fs') :
    Process.Keeps A P (writeFile file content) I Q := by
  refine Process.Meets.of_eq fun s hs => ?_
  obtain ⟨fs', hwritten, hchange, hentry, hread⟩ :=
    write_openFile .incomplete content (hfree s hs)
  have hopened : I (s.openFile file .incomplete) :=
    hopen s _ hs (changesOnly_openFile _ (hfree s hs))
  refine Process.Meets.bind (M := fun _ fs => fs = s.openFile file .incomplete)
    (Process.Keeps.act ?_ ?_) fun _ => Process.Keeps.act ?_ ?_
  · rintro fs rfl
    exact hP fs hs
  · rintro fs rfl
    exact ⟨_, rfl, hopened, rfl⟩
  · rintro fs rfl
    exact hopened
  · rintro fs rfl
    exact ⟨fs', hwritten, hwrite s fs' hs hchange hentry hread⟩

/-! ### Artifacts on their way -/

/-- What the conversion of an artifact to the storage schema raises. -/
def Payload.validate : Payload Digest → Except Failure Unit
  | .parquet rows => validateRows rows
  | .manifest _ => .ok ()
  | .delete => .ok ()

/-- Every artifact converts to the storage schema. -/
def Convertible (artifacts : List (Artifact Digest)) : Prop :=
  ∀ a ∈ artifacts, a.payload.validate = .ok ()

/-- The temporary of the artifact was written, to a new inode. -/
def Prepared (T : Transaction Digest) (a : Artifact Digest) (fs : DerivedFiles Digest) : Prop :=
  ∀ c, a.payload.content = some c → fs.read (.temporary T.series a.target T.id) = some c ∧
    ∀ i, fs.entry (.temporary T.series a.target T.id) = some i → T.before.inodes.length ≤ i

/-- The target of the artifact is untouched. -/
def Untouched (T : Transaction Digest) (a : Artifact Digest) (fs : DerivedFiles Digest) : Prop :=
  fs.entry (.target T.series a.target) = T.before.entry (.target T.series a.target) ∧
    fs.entry (.backup T.series a.target T.id) = none

section

variable {a : Artifact Digest} {S : DerivedFile → Prop} {fs : DerivedFiles Digest}

theorem stable_prepared (h : ¬ S (.temporary T.series a.target T.id)) : Stable S (Prepared T a) :=
  fun fs fs' hfs hchange c hc => by
    rw [hchange.read h, hchange.entry _ h]
    exact hfs c hc

theorem stable_untouched (ht : ¬ S (.target T.series a.target))
    (hb : ¬ S (.backup T.series a.target T.id)) : Stable S (Untouched T a) :=
  (stable_entry ht).and (stable_entry hb)

theorem Untouched.restorable (h : Untouched T a fs) : Restorable T a.target fs :=
  .inl ⟨h.2, .inr h.1⟩

end

/-- The targets of different artifacts are different. -/
theorem target_ne {a x : Artifact Digest} (ha : a ∈ T.artifacts) (hx : x ∈ T.artifacts)
    (hne : a ≠ x) : a.target ≠ x.target :=
  fun h => hne (List.inj_on_of_nodup_map T.targets_nodup ha hx h)

theorem not_mem_done {done rest : List (Artifact Digest)} {x : Artifact Digest}
    (hsplit : T.artifacts = done ++ x :: rest) : x ∈ T.artifacts ∧ x ∉ done := by
  have hnodup : T.artifacts.Nodup := T.targets_nodup.of_map
  rw [hsplit, List.nodup_append] at hnodup
  exact ⟨by rw [hsplit]; simp, fun hx => hnodup.2.2 x hx x (by simp) rfl⟩

/-! ### Preparing -/

/-- Some artifacts are prepared, and nothing else happened. -/
structure Preparing (T : Transaction Digest) (done : List (Artifact Digest))
    (fs : DerivedFiles Digest) : Prop where
  undoable : Undoable T none fs
  untouched : ∀ a ∈ T.artifacts, Untouched T a fs
  prepared : ∀ a ∈ done, Prepared T a fs
  converted : ∀ a ∈ done, a.payload.validate = .ok ()
  absent : ∀ a ∈ T.artifacts, a ∉ done → fs.entry (.temporary T.series a.target T.id) = none

theorem Preparing.next {done : List (Artifact Digest)} {x : Artifact Digest}
    {fs fs' : DerivedFiles Digest} (hdone : ∀ a ∈ done, a ∈ T.artifacts) (hx : x ∈ T.artifacts)
    (hfresh : x ∉ done) (h : Preparing T done fs)
    (hchange : ChangesOnly (· = .temporary T.series x.target T.id) fs fs')
    (hprepared : Prepared T x fs') (hvalid : x.payload.validate = .ok ()) :
    Preparing T (done ++ [x]) fs' := by
  have hmem : x.target ∈ T.targets := List.mem_map_of_mem hx
  refine ⟨stable_undoable (S := (· = .temporary T.series x.target T.id))
    (fun n hn => hn ▸ Transaction.owns_temporary hmem) (by simp) (by simp) (by simp) _ _
    h.undoable hchange, fun a ha => ?_, fun a ha => ?_, fun a ha => ?_, fun a ha hnot => ?_⟩
  · exact ⟨(hchange.entry _ (by simp)).trans (h.untouched a ha).1,
      (hchange.entry _ (by simp)).trans (h.untouched a ha).2⟩
  · rcases List.mem_append.mp ha with ha | ha
    · have hne : a ≠ x := fun heq => hfresh (heq ▸ ha)
      exact stable_prepared (by simp [target_ne (hdone a ha) hx hne]) _ _ (h.prepared a ha) hchange
    · rw [List.mem_singleton.mp ha]
      exact hprepared
  · rcases List.mem_append.mp ha with ha | ha
    · exact h.converted a ha
    · rw [List.mem_singleton.mp ha]
      exact hvalid
  · rw [List.mem_append, not_or, List.mem_singleton] at hnot
    rw [hchange.entry _ (by simp [target_ne ha hx hnot.2])]
    exact h.absent a ha hnot.1

/-- Preparing one artifact. -/
theorem prepareArtifact_meets {done rest : List (Artifact Digest)} {x : Artifact Digest}
    (hsplit : T.artifacts = done ++ x :: rest) :
    Process.Meets A (Preparing T done) (prepareArtifact T.series T.id x) (Undoable T none)
      (fun _ => Preparing T (done ++ [x]))
      (fun _ fs => Undoable T none fs ∧ (Process.CanRaise A ∨ ¬ Convertible T.artifacts)) := by
  obtain ⟨hx, hfresh⟩ := not_mem_done hsplit
  have hdone : ∀ a ∈ done, a ∈ T.artifacts := fun a ha => by rw [hsplit]; simp [ha]
  have hmem : x.target ∈ T.targets := List.mem_map_of_mem hx
  have hundoable : ∀ fs fs', Preparing T done fs →
      ChangesOnly (· = .temporary T.series x.target T.id) fs fs' → Undoable T none fs' :=
    fun fs fs' h => stable_undoable (S := (· = .temporary T.series x.target T.id))
      (fun n hn => hn ▸ Transaction.owns_temporary hmem) (by simp) (by simp) (by simp) _ _
      h.undoable
  have hwrite : ∀ c, x.payload.content = some c → x.payload.validate = .ok () →
      Process.Keeps A (Preparing T done) (writeFile (.temporary T.series x.target T.id) c)
        (Undoable T none) (fun _ => Preparing T (done ++ [x])) := by
    refine fun c hc hvalid => writeFile_keeps (fun fs h => h.undoable) (fun fs h => h.absent x hx hfresh)
      hundoable fun fs fs' h hchange hentry hread => ⟨hundoable fs fs' h hchange, ?_⟩
    refine h.next hdone hx hfresh hchange (fun c' hc' => ⟨?_, fun i hi => ?_⟩) hvalid
    · rw [hread, ← hc', hc]
    · rw [hentry] at hi
      cases hi
      exact h.undoable.frame.inodes.length_le
  have hraise : ∀ {p : FilesProcess Digest Unit}, Process.Keeps A (Preparing T done) p
      (Undoable T none) (fun _ => Preparing T (done ++ [x])) →
      Process.Meets A (Preparing T done) p (Undoable T none)
        (fun _ => Preparing T (done ++ [x]))
        (fun _ fs => Undoable T none fs ∧ (Process.CanRaise A ∨ ¬ Convertible T.artifacts)) :=
    fun h => Process.Meets.weaken h (fun _ h => h) (fun _ h => h) (fun _ _ h => h)
      fun _ _ h => ⟨h.1, .inl h.2⟩
  unfold prepareArtifact
  cases hp : x.payload with
  | parquet rows =>
    change Process.Meets A _ (ofExcept (validateRows rows) >>= fun _ =>
      writeFile (.temporary T.series x.target T.id) (.candles rows)) _ _ _
    cases hvalid : validateRows rows with
    | ok u =>
      exact Process.Meets.bind (M := fun _ => Preparing T done) (Process.Meets.pure fun _ h => h)
        fun _ => hraise (hwrite _ (by rw [hp, Payload.content])
          (by rw [hp, Payload.validate, hvalid]))
    | error e =>
      refine Process.Meets.bind (M := fun _ _ => False)
        (Process.Meets.raise fun fs h => ⟨h.undoable, .inr fun hconvertible => ?_⟩)
        fun _ fs _ h => h.elim
      have hok := hconvertible x hx
      rw [hp, Payload.validate, hvalid] at hok
      cases hok
  | manifest m =>
    exact hraise (hwrite _ (by rw [hp, Payload.content]) (by rw [hp, Payload.validate]))
  | delete =>
    refine Process.Meets.pure fun fs h => h.next hdone hx hfresh (ChangesOnly.refl _ fs) ?_
      (by rw [hp, Payload.validate])
    intro c hc
    rw [hp, Payload.content] at hc
    cases hc

/-- **Preparing every artifact.** -/
theorem prepareArtifacts_meets :
    Process.Meets A (Preparing T []) (Process.forEach T.artifacts (prepareArtifact T.series T.id))
      (Undoable T none) (fun _ => Preparing T T.artifacts)
      (fun _ fs => Undoable T none fs ∧ (Process.CanRaise A ∨ ¬ Convertible T.artifacts)) :=
  Process.Meets.forEach (J := fun done => Preparing T done)
    fun _ _ _ hsplit => prepareArtifact_meets hsplit

/-! ### Promoting -/

/-- Some artifacts are promoted, the others wait. -/
structure Promoting (T : Transaction Digest) (done : List (Artifact Digest))
    (fs : DerivedFiles Digest) : Prop where
  undoable : Undoable T none fs
  promoted : ∀ a ∈ done, fs.read (.target T.series a.target) = a.payload.content
  waiting : ∀ a ∈ T.artifacts, a ∉ done → Untouched T a fs ∧ Prepared T a fs

/-- The files of one target. -/
abbrev FilesOf (T : Transaction Digest) (t : TargetName) (n : DerivedFile) : Prop :=
  n = .target T.series t ∨ n = .temporary T.series t T.id ∨ n = .backup T.series t T.id

/-- What is known of the other artifacts while one is promoted. -/
structure PromotingElsewhere (T : Transaction Digest) (done : List (Artifact Digest))
    (x : Artifact Digest) (fs : DerivedFiles Digest) : Prop where
  undoable : UndoableElsewhere T none x.target fs
  promoted : ∀ a ∈ done, fs.read (.target T.series a.target) = a.payload.content
  waiting : ∀ a ∈ T.artifacts, a ∉ done → a ≠ x → Untouched T a fs ∧ Prepared T a fs

section

variable {done rest : List (Artifact Digest)} {x : Artifact Digest} {fs : DerivedFiles Digest}

theorem Promoting.elsewhere (h : Promoting T done fs) : PromotingElsewhere T done x fs :=
  ⟨h.undoable.elsewhere, h.promoted, fun a ha hnot _ => h.waiting a ha hnot⟩

theorem PromotingElsewhere.promoting (h : PromotingElsewhere T done x fs)
    (hrestorable : Restorable T x.target fs)
    (hx : fs.read (.target T.series x.target) = x.payload.content) :
    Promoting T (done ++ [x]) fs := by
  refine ⟨h.undoable.undoable hrestorable, fun a ha => ?_, fun a ha hnot => ?_⟩
  · rcases List.mem_append.mp ha with ha | ha
    · exact h.promoted a ha
    · rw [List.mem_singleton.mp ha]
      exact hx
  · rw [List.mem_append, not_or, List.mem_singleton] at hnot
    exact h.waiting a ha hnot.1 hnot.2

theorem stable_promotingElsewhere (hsplit : T.artifacts = done ++ x :: rest) :
    Stable (FilesOf T x.target) (PromotingElsewhere T done x) := by
  obtain ⟨hx, hfresh⟩ := not_mem_done hsplit
  have hdone : ∀ a ∈ done, a.target ≠ x.target := fun a ha =>
    target_ne (by rw [hsplit]; simp [ha]) hx fun heq => hfresh (heq ▸ ha)
  intro fs fs' h hchange
  refine ⟨stable_undoableElsewhere (List.mem_map_of_mem hx) _ _ h.undoable hchange,
    fun a ha => ?_, fun a ha hnot hne => ?_⟩
  · rw [hchange.read (by simp [hdone a ha])]
    exact h.promoted a ha
  · have htarget := target_ne ha hx hne
    obtain ⟨huntouched, hprepared⟩ := h.waiting a ha hnot hne
    exact ⟨stable_untouched (by simp [htarget]) (by simp [htarget]) _ _ huntouched hchange,
      stable_prepared (by simp [htarget]) _ _ hprepared hchange⟩

/-- The original is kept, if there is one. -/
def Kept (T : Transaction Digest) (x : Artifact Digest) (fs : DerivedFiles Digest) : Prop :=
  fs.entry (.target T.series x.target) = T.before.entry (.target T.series x.target) ∧
    (T.before.entry (.target T.series x.target) = none ∧
        fs.entry (.backup T.series x.target T.id) = none ∨
      T.before.entry (.target T.series x.target) ≠ none ∧
        fs.entry (.backup T.series x.target T.id) = T.before.entry (.target T.series x.target))

theorem Kept.restorable (h : Kept T x fs) : Restorable T x.target fs :=
  h.2.imp (fun h => ⟨h.2, .inl h.1⟩) id

/-- Whatever becomes of the target of a kept original, it can be restored. -/
theorem Kept.changed {fs' : DerivedFiles Digest} (h : Kept T x fs)
    (hchange : ChangesOnly (fun n => n = .temporary T.series x.target T.id ∨
      n = .target T.series x.target) fs fs') : Restorable T x.target fs' := by
  have hbackup := hchange.entry (.backup T.series x.target T.id) (by simp)
  exact h.2.imp (fun h => ⟨hbackup.trans h.2, .inl h.1⟩) fun h => ⟨h.1, hbackup.trans h.2⟩

/-- Keeping the original under a second name. -/
theorem keepOriginal_keeps (hsplit : T.artifacts = done ++ x :: rest) :
    Process.Keeps A (Promoting T done)
      (onlyIf x.hadOriginal do
        unlink (.backup T.series x.target T.id)
        link (.target T.series x.target) (.backup T.series x.target T.id))
      (Undoable T none)
      (fun _ fs => PromotingElsewhere T done x fs ∧ Kept T x fs ∧ Prepared T x fs) := by
  obtain ⟨hx, hfresh⟩ := not_mem_done hsplit
  have horiginal := T.originals x hx
  -- Nothing but the backup of `x` changes.
  have hchanged : ∀ fs fs' : DerivedFiles Digest,
      ChangesOnly (· = .backup T.series x.target T.id) fs fs' → PromotingElsewhere T done x fs →
        Prepared T x fs → PromotingElsewhere T done x fs' ∧ Prepared T x fs' :=
    fun fs fs' hchange h hprepared =>
      ⟨stable_promotingElsewhere hsplit _ _ h (hchange.mono fun n hn => .inr (.inr hn)),
        stable_prepared (S := (· = .backup T.series x.target T.id)) (by simp) _ _ hprepared
          hchange⟩
  cases hhad : x.hadOriginal with
  | false =>
    refine Process.Meets.pure fun fs h => ?_
    obtain ⟨huntouched, hprepared⟩ := h.waiting x hx hfresh
    have hnone : T.before.entry (.target T.series x.target) = none := by
      rw [hhad] at horiginal
      simpa [exist] using horiginal.symm
    exact ⟨h.elsewhere, ⟨huntouched.1, .inl ⟨hnone, huntouched.2⟩⟩, hprepared⟩
  | true =>
    have hsome : T.before.entry (.target T.series x.target) ≠ none :=
      exist_eq.mp (horiginal.symm.trans hhad)
    refine Process.Meets.bind
      (M := fun _ fs => PromotingElsewhere T done x fs ∧ Untouched T x fs ∧ Prepared T x fs)
      (keeps_unlink (fun fs h => h.undoable) fun fs h hchange hgone => ?_)
      fun _ => keeps_link ?_ ?_ ?_
    · obtain ⟨huntouched, hprepared⟩ := h.waiting x hx hfresh
      obtain ⟨helsewhere, hprepared'⟩ := hchanged _ _ hchange h.elsewhere hprepared
      have huntouched' : Untouched T x (fs.unlink (.backup T.series x.target T.id)) :=
        ⟨(hchange.entry _ (by simp)).trans huntouched.1, hgone⟩
      exact ⟨helsewhere.undoable.undoable huntouched'.restorable, helsewhere, huntouched',
        hprepared'⟩
    · exact fun fs h => h.1.undoable.undoable h.2.1.restorable
    · exact fun fs h => ⟨by rw [h.2.1.1]; exact hsome, h.2.1.2⟩
    · rintro fs fs' ⟨helsewhere, huntouched, hprepared⟩ hchange hbackup
      obtain ⟨helsewhere', hprepared'⟩ := hchanged _ _ hchange helsewhere hprepared
      have hkept : Kept T x fs' := ⟨(hchange.entry _ (by simp)).trans huntouched.1,
        .inr ⟨hsome, hbackup.trans huntouched.1⟩⟩
      exact ⟨helsewhere'.undoable.undoable hkept.restorable, helsewhere', hkept, hprepared'⟩

/-- Removing or replacing the target. -/
theorem replaceTarget_keeps (hsplit : T.artifacts = done ++ x :: rest) :
    Process.Keeps A (fun fs => PromotingElsewhere T done x fs ∧ Kept T x fs ∧ Prepared T x fs)
      (if x.payload.kind = .delete then unlink (.target T.series x.target)
        else replaceFile (.temporary T.series x.target T.id) (.target T.series x.target))
      (Undoable T none) (fun _ => Promoting T (done ++ [x])) := by
  have hundoable : ∀ fs, PromotingElsewhere T done x fs ∧ Kept T x fs ∧ Prepared T x fs →
      Undoable T none fs := fun fs h => h.1.undoable.undoable h.2.1.restorable
  have hstep : ∀ fs fs', PromotingElsewhere T done x fs ∧ Kept T x fs ∧ Prepared T x fs →
      ChangesOnly (fun n => n = .temporary T.series x.target T.id ∨
        n = .target T.series x.target) fs fs' →
      fs'.read (.target T.series x.target) = x.payload.content →
      Undoable T none fs' ∧ Promoting T (done ++ [x]) fs' := by
    intro fs fs' h hchange hread
    have helsewhere := stable_promotingElsewhere hsplit _ _ h.1
      (hchange.mono fun n hn => hn.elim (fun h => .inr (.inl h)) .inl)
    have hrestorable := h.2.1.changed hchange
    exact ⟨helsewhere.undoable.undoable hrestorable, helsewhere.promoting hrestorable hread⟩
  split
  · next hdelete =>
    refine keeps_unlink hundoable fun fs h hchange hgone =>
      hstep fs _ h (hchange.mono fun n hn => .inr hn) ?_
    rw [read_eq_none.mpr hgone]
    cases hp : x.payload with
    | delete => rfl
    | parquet rows => rw [hp] at hdelete; cases hdelete
    | manifest m => rw [hp] at hdelete; cases hdelete
  · next hkind =>
    obtain ⟨c, hc⟩ : ∃ c, x.payload.content = some c := by
      cases hp : x.payload with
      | delete => exact absurd (by rw [hp]; rfl) hkind
      | parquet rows => exact ⟨_, rfl⟩
      | manifest m => exact ⟨_, rfl⟩
    refine keeps_replaceFile (by simp) hundoable (fun fs h => ?_)
      fun fs fs' h hchange hdst _ => hstep fs fs' h hchange ?_
    · -- The temporary is a new inode, the target an old one or missing.
      obtain ⟨hread, hnew⟩ := h.2.2 c hc
      obtain ⟨i, hi⟩ : ∃ i, fs.entry (.temporary T.series x.target T.id) = some i := by
        refine Option.ne_none_iff_exists'.mp fun hnone => ?_
        rw [read_eq_none.mpr hnone] at hread
        cases hread
      refine ⟨i, hi, fun htarget => ?_⟩
      have hlt := T.before.entry_lt (h.2.1.1 ▸ htarget)
      exact absurd (hnew i hi) (by omega)
    · rw [hchange.read_of_entry hdst, (h.2.2 c hc).1, hc]

/-- Promoting one artifact. -/
theorem promoteArtifact_keeps (hsplit : T.artifacts = done ++ x :: rest) :
    Process.Keeps A (Promoting T done) (promoteArtifact T.series T.id x) (Undoable T none)
      (fun _ => Promoting T (done ++ [x])) := by
  obtain ⟨hx, -⟩ := not_mem_done hsplit
  refine Process.Keeps.onRaise
    (Process.Meets.bind (keepOriginal_keeps hsplit) fun _ => replaceTarget_keeps hsplit)
    fun _ _ => ?_
  refine Process.Keeps.weaken (restore_undoable (G := fun _ => True) (List.mem_map_of_mem hx)
    (T.originals x hx) fun _ _ _ _ => trivial) (fun _ h => ⟨h, trivial⟩) (fun _ h => h)
    fun _ _ h => h.1

end

/-- **Promoting every artifact.** -/
theorem promoteArtifacts_keeps :
    Process.Keeps A (Promoting T [])
      (Process.forEach T.artifacts (promoteArtifact T.series T.id)) (Undoable T none)
      (fun _ => Promoting T T.artifacts) :=
  Process.Meets.forEach (J := fun done => Promoting T done)
    fun _ _ _ hsplit => promoteArtifact_keeps hsplit

theorem Preparing.promoting {fs : DerivedFiles Digest} (h : Preparing T T.artifacts fs) :
    Promoting T [] fs :=
  ⟨h.undoable, by simp, fun a ha _ => ⟨h.untouched a ha, h.prepared a ha⟩⟩

/-! ### How many operations -/

/-- The operations that prepare an artifact. -/
def Artifact.prepareOperations (a : Artifact Digest) : ℕ :=
  if a.payload.kind = .delete then 0 else 2

/-- The operations that promote an artifact. -/
def Artifact.promoteOperations (a : Artifact Digest) : ℕ := if a.hadOriginal then 3 else 1

/-- The operations that prepare and promote every artifact. -/
def operations (artifacts : List (Artifact Digest)) : ℕ :=
  (artifacts.map Artifact.prepareOperations).sum + (artifacts.map Artifact.promoteOperations).sum

theorem takes_writeFile (file : DerivedFile) (content : DerivedContent Digest) :
    Process.Takes 2 (writeFile file content) :=
  (Process.takes_act _ _).bind fun _ => Process.takes_act _ _

theorem takes_ofExcept {α : Type} (x : Except Failure α) :
    Process.Takes 0 (ofExcept x : FilesProcess Digest α) := by
  cases x with
  | ok a => exact Process.takes_pure a
  | error e => exact Process.takes_raise e 0

theorem takes_prepareArtifact (series : DerivedSeries) (id : String) (a : Artifact Digest) :
    Process.Takes a.prepareOperations (prepareArtifact series id a) := by
  unfold prepareArtifact Artifact.prepareOperations
  cases a.payload with
  | parquet rows => exact (takes_ofExcept _).bind fun _ => takes_writeFile _ _
  | manifest m => exact takes_writeFile _ _
  | delete => exact Process.takes_pure ()

theorem takes_promoteArtifact (series : DerivedSeries) (id : String) (a : Artifact Digest) :
    Process.Takes a.promoteOperations (promoteArtifact series id a) := by
  have hreplace : Process.Takes 1
      (if a.payload.kind = .delete then unlink (.target series a.target)
        else replaceFile (.temporary series a.target id) (.target series a.target) :
          FilesProcess Digest Unit) := by
    split
    · exact Process.takes_act _ _
    · exact Process.takes_act _ _
  refine Process.Takes.onRaise ?_
  unfold Artifact.promoteOperations onlyIf
  cases a.hadOriginal with
  | true =>
    exact Process.Takes.bind ((Process.takes_act _ _).bind fun _ => Process.takes_act _ _)
      fun _ => hreplace
  | false => exact (Process.takes_pure ()).bind fun _ => hreplace

/-- **The operations of the two loops.** -/
theorem takes_artifacts (T : Transaction Digest) :
    Process.Takes (operations T.artifacts) (do
      Process.forEach T.artifacts (prepareArtifact T.series T.id)
      Process.forEach T.artifacts (promoteArtifact T.series T.id)) :=
  (Process.takes_forEach fun a _ => takes_prepareArtifact T.series T.id a).bind
    fun _ => Process.takes_forEach fun a _ => takes_promoteArtifact T.series T.id a

/-! ### Journals -/

/-- The temporary of a journal is there, and nothing else changed. -/
def JournalOpen (id : String) (fs fs' : DerivedFiles Digest) : Prop :=
  (∃ i, fs'.entry (.journalTemporary id) = some i) ∧ ChangesOnly (· = .journalTemporary id) fs fs'

/-- A journal was written, and nothing else changed. -/
def JournalWritten (record : JournalRecord) (fs fs' : DerivedFiles Digest) : Prop :=
  ChangesOnly (fun n => n = .journalTemporary record.transactionId ∨
      n = .journal record.transactionId) fs fs' ∧
    fs'.read (.journal record.transactionId) = some (.journal record) ∧
    fs'.entry (.journalTemporary record.transactionId) = none

section

variable (record : JournalRecord) {fs : DerivedFiles Digest}

/-- **Writing a journal**, whole or cut: the states it goes through. -/
theorem writeJournal_run (hfree : fs.entry (.journalTemporary record.transactionId) = none) :
    ∃ opened written renamed, JournalOpen record.transactionId fs opened ∧
      JournalOpen record.transactionId fs written ∧ JournalWritten record fs renamed ∧
      (∀ n rest, writeJournal record fs (List.replicate (n + 3) .pass ++ rest) =
        ⟨.returned (), [opened, written, renamed], List.replicate n .pass ++ rest⟩) ∧
      (∀ rest, writeJournal record fs (.crash :: rest) = ⟨.crashed, [], rest⟩) ∧
      (∀ rest, writeJournal record fs (.pass :: .crash :: rest) = ⟨.crashed, [opened], rest⟩) ∧
      ∀ rest, writeJournal record fs (.pass :: .pass :: .crash :: rest) =
        ⟨.crashed, [opened, written], rest⟩ := by
  obtain ⟨written, hwrite, hchange, hentry, hread⟩ :=
    write_openFile .incomplete (.journal record) hfree
  -- The new inode is none of those there were, so the rename takes place.
  have hjournal : written.entry (.journal record.transactionId) ≠ some fs.inodes.length := by
    intro h
    rw [hchange.entry _ (by simp)] at h
    exact absurd (fs.entry_lt h) (lt_irrefl _)
  obtain ⟨renamed, hreplace, hchange', hdst, hsrc⟩ := exists_replace (by simp) hentry hjournal
  have hopened := changesOnly_openFile (.incomplete : DerivedContent Digest) hfree
  refine ⟨_, written, renamed, ⟨⟨fs.inodes.length, ?_⟩, hopened⟩, ⟨⟨_, hentry⟩, hchange⟩,
    ⟨(hchange.mono fun n hn => .inl hn).trans hchange', ?_, hsrc⟩,
    fun n rest => ?_, fun rest => ?_, fun rest => ?_, fun rest => ?_⟩
  · rw [openFile_eq _ hfree, entry_refer, if_pos rfl]
  · rw [hchange'.read_of_entry (hdst.trans hentry.symm), hread]
  · simp only [writeJournal, Process.orElse, writeFile, replaceFile, operation, Process.act, bind,
      Process.andThen, Ran.final, List.replicate_succ, List.cons_append, hwrite, hreplace,
      List.getLastD_cons, List.getLastD_nil, List.tail_cons, List.nil_append]
  · simp only [writeJournal, Process.orElse, writeFile, operation, Process.act, bind,
      Process.andThen]
  · simp only [writeJournal, Process.orElse, writeFile, operation, Process.act, bind,
      Process.andThen, Ran.final, List.tail_cons, List.append_nil]
  · simp only [writeJournal, Process.orElse, writeFile, replaceFile, operation, Process.act, bind,
      Process.andThen, Ran.final, hwrite, List.getLastD_cons, List.getLastD_nil, List.tail_cons,
      List.cons_append, List.nil_append]

end

end DerivedTransaction
end MarketData
end DryTrade
