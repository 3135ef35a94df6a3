import DryTrade.MarketData.SnapshotReading

/-!
# Interrupted snapshots

Nothing removes the temporary directory of a `create` that was killed while it was there,
and its name only depends on the identity of the snapshot, so every later `create` of that
snapshot finds it in the way.

## Main definitions

* `treeEntries` — the entries of a snapshot directory, in the order they are made.
* `Attempt` — an earlier call that was killed, at once or after an operation had failed.
* `Attempt.Interrupted` — it was killed while its temporary directory was there.

## Main results

* `straight_buildTree` — the operations of a build.
* `create_iff` — when a later call publishes the snapshot.
-/

namespace DryTrade
namespace MarketData
namespace Snapshots

open Storage StagingArea

variable {Digest : Type} {r : DataRange} {p : Prepared Digest} {t : SnapshotTree Digest}
  {published : Option (SnapshotTree Digest)} {createdAt : String}

/-! ### What a build makes -/

/-- A directory that is made unless it is there. -/
def directoryEntry (present : List SnapshotPath) (q : SnapshotPath) : SnapshotTree Digest :=
  if q ∈ present then [] else [(q, .directory)]

/-- What is made for one partition. -/
def partitionEntries (present : List SnapshotPath) (month : ℤ) (rows : List Candle) :
    SnapshotTree Digest :=
  directoryEntry present .partitions ++ (directoryEntry present (.year (month / 12)) ++
    (directoryEntry present (.month month) ++ [(.candles month, .candles rows)]))

/-- What is made for the partitions of some months. -/
def linkedEntries (partitions : PartitionFiles) : List SnapshotPath → List ℤ → SnapshotTree Digest
  | _, [] => []
  | present, month :: months =>
    let entries := partitionEntries present month (partitions.rowsAt month)
    entries ++ linkedEntries partitions (present ++ entries.map (·.1)) months

/-- **The entries of a snapshot directory**, in the order they are made. -/
def treeEntries (partitions : PartitionFiles) (p : Prepared Digest) : SnapshotTree Digest :=
  linkedEntries partitions [] (p.selected.map (·.month)) ++
    [(.manifest, .manifest p.manifest), (.metadata, .incomplete)]

theorem directoryEntry_append {present more : List SnapshotPath} {q : SnapshotPath} (h : q ∉ more) :
    (directoryEntry (present ++ more) q : SnapshotTree Digest) = directoryEntry present q := by
  simp [directoryEntry, h]

theorem mem_directoryEntry {present : List SnapshotPath} {q : SnapshotPath}
    {e : SnapshotPath × SnapshotNode Digest} (h : e ∈ directoryEntry present q) :
    e = (q, .directory) := by
  unfold directoryEntry at h
  split at h
  · cases h
  · exact List.mem_singleton.mp h

theorem mem_paths_directoryEntry {present : List SnapshotPath} {q q' : SnapshotPath}
    (h : q' ∈ (directoryEntry present q : SnapshotTree Digest).map (·.1)) : q' = q := by
  obtain ⟨e, he, rfl⟩ := List.mem_map.mp h
  exact congrArg Prod.fst (mem_directoryEntry he)

/-- **The entries of one partition**: directories that were not there, and the link. -/
theorem mem_partitionEntries {present : List SnapshotPath} {month : ℤ} {rows : List Candle}
    {e : SnapshotPath × SnapshotNode Digest} (h : e ∈ partitionEntries present month rows) :
    e = (.candles month, .candles rows) ∨
      e.2 = .directory ∧ (e.1 = .partitions ∨ (∃ y, e.1 = .year y) ∨ ∃ m, e.1 = .month m) := by
  simp only [partitionEntries, List.mem_append, List.mem_singleton] at h
  rcases h with h | h | h | h
  · rw [mem_directoryEntry h]
    exact .inr ⟨rfl, .inl rfl⟩
  · rw [mem_directoryEntry h]
    exact .inr ⟨rfl, .inr (.inl ⟨_, rfl⟩)⟩
  · rw [mem_directoryEntry h]
    exact .inr ⟨rfl, .inr (.inr ⟨_, rfl⟩)⟩
  · exact .inl h

/-- Making a directory, after entries that are none of it. -/
theorem straight_ensureDirectory (q : SnapshotPath) (more : SnapshotTree Digest)
    (hmore : q ∉ more.map (·.1)) :
    Process.Straight osError (ensureDirectory q) ⟨some (t ++ more), published⟩
      (adds (directoryEntry (t.map (·.1)) q)) := by
  refine Process.straight_read ?_
  have hpaths : stagedPaths (⟨some (t ++ more), published⟩ : SnapshotArea Digest) =
      (t ++ more).map (·.1) := rfl
  rw [← directoryEntry_append hmore, ← List.map_append, hpaths]
  unfold directoryEntry
  split
  · exact Process.straight_pure _ _
  · next h => exact straight_addEntry osError .directory h

/-- **Linking one partition.** -/
theorem straight_linkPartition {partitions : PartitionFiles} {month : ℤ} {rows : List Candle}
    (hfile : partitions.file month = some rows)
    (hfresh : SnapshotPath.candles month ∉ t.map (·.1)) :
    Process.Straight osError (linkPartition partitions month) ⟨some t, published⟩
      (adds (partitionEntries (t.map (·.1)) month rows)) := by
  rw [partitionEntries, adds_append, adds_append, adds_append]
  have hroot : Process.Straight osError (ensureDirectory .partitions) ⟨some (t ++ []), published⟩
      (adds (directoryEntry (t.map (·.1)) .partitions)) :=
    straight_ensureDirectory .partitions [] List.not_mem_nil
  rw [List.append_nil] at hroot
  refine hroot.bind ?_
  rw [applyAll_adds]
  refine (straight_ensureDirectory _ _ fun hmem => ?_).bind ?_
  · cases mem_paths_directoryEntry hmem
  rw [applyAll_adds, List.append_assoc]
  refine (straight_ensureDirectory _ _ fun hmem => ?_).bind ?_
  · rw [List.map_append] at hmem
    rcases List.mem_append.mp hmem with hmem | hmem <;> cases mem_paths_directoryEntry hmem
  rw [applyAll_adds]
  have hnew : SnapshotPath.candles month ∉ (t ++ (directoryEntry (t.map (·.1)) .partitions ++
      directoryEntry (t.map (·.1)) (.year (month / 12))) ++
        directoryEntry (t.map (·.1)) (.month month) : SnapshotTree Digest).map (·.1) := by
    simp only [List.map_append, List.mem_append]
    rintro ((hmem | hmem | hmem) | hmem)
    · exact hfresh hmem
    all_goals cases mem_paths_directoryEntry hmem
  rw [hfile]
  exact straight_addEntry osError (SnapshotNode.candles rows) hnew

/-- **Linking the partitions of some months.** -/
theorem straight_linkPartitions {partitions : PartitionFiles} {months : List ℤ}
    (hfiles : ∀ month ∈ months, partitions.file month ≠ none) (hnodup : months.Nodup)
    (hfresh : ∀ month ∈ months, SnapshotPath.candles month ∉ t.map (·.1)) :
    Process.Straight osError (Process.forEach months (linkPartition partitions))
      ⟨some t, published⟩ (adds (linkedEntries partitions (t.map (·.1)) months)) := by
  induction months generalizing t with
  | nil => exact Process.straight_pure _ _
  | cons month months ih =>
    obtain ⟨hmonth, hrest⟩ := List.nodup_cons.mp hnodup
    obtain ⟨rows, hrows⟩ := Option.ne_none_iff_exists'.mp (hfiles month List.mem_cons_self)
    have hlink : Process.Straight osError (linkPartition partitions month) ⟨some t, published⟩ _ :=
      straight_linkPartition hrows (hfresh month List.mem_cons_self)
    rw [linkedEntries, adds_append]
    have hat : partitions.rowsAt month = rows := by rw [PartitionFiles.rowsAt, hrows]; rfl
    rw [hat]
    refine hlink.bind ?_
    rw [applyAll_adds, ← List.map_append]
    refine ih (fun m hm => hfiles m (List.mem_cons_of_mem month hm)) hrest fun m hm hmem => ?_
    rw [List.map_append, List.mem_append] at hmem
    rcases hmem with hmem | hmem
    · exact hfresh m (List.mem_cons_of_mem month hm) hmem
    · simp only [partitionEntries, List.map_append, List.mem_append] at hmem
      rcases hmem with hmem | hmem | hmem | hmem
      · cases mem_paths_directoryEntry hmem
      · cases mem_paths_directoryEntry hmem
      · cases mem_paths_directoryEntry hmem
      · simp only [List.map_cons, List.map_nil, List.mem_singleton,
          SnapshotPath.candles.injEq] at hmem
        exact hmonth (hmem ▸ hm)

/-- **The entries of some partitions**: directories, and the candles of each month. -/
theorem mem_linkedEntries {partitions : PartitionFiles} {present : List SnapshotPath}
    {months : List ℤ} {e : SnapshotPath × SnapshotNode Digest}
    (h : e ∈ linkedEntries partitions present months) :
    (∃ month ∈ months, e = (.candles month, .candles (partitions.rowsAt month))) ∨
      e.2 = .directory ∧ (e.1 = .partitions ∨ (∃ y, e.1 = .year y) ∨ ∃ m, e.1 = .month m) := by
  induction months generalizing present with
  | nil => cases h
  | cons month months ih =>
    rcases List.mem_append.mp h with h | h
    · rcases mem_partitionEntries h with h | h
      · exact .inl ⟨month, List.mem_cons_self, h⟩
      · exact .inr h
    · rcases ih h with ⟨m, hm, he⟩ | h
      · exact .inl ⟨m, List.mem_cons_of_mem month hm, he⟩
      · exact .inr h

/-- A partition has neither a manifest nor metadata. -/
theorem ne_of_mem_linkedEntries {partitions : PartitionFiles} {present : List SnapshotPath}
    {months : List ℤ} {e : SnapshotPath × SnapshotNode Digest}
    (h : e ∈ linkedEntries partitions present months) : e.1 ≠ .manifest ∧ e.1 ≠ .metadata := by
  rcases mem_linkedEntries h with ⟨m, -, rfl⟩ | ⟨-, hdir | ⟨_, hdir⟩ | ⟨_, hdir⟩⟩
  · exact ⟨nofun, nofun⟩
  all_goals rw [hdir]; exact ⟨nofun, nofun⟩

theorem candles_mem_linkedEntries {partitions : PartitionFiles} {present : List SnapshotPath}
    {months : List ℤ} {month : ℤ} (h : month ∈ months) :
    ((.candles month, .candles (partitions.rowsAt month)) : SnapshotPath × SnapshotNode Digest) ∈
      linkedEntries partitions present months := by
  induction months generalizing present with
  | nil => cases h
  | cons m months ih =>
    rw [linkedEntries]
    rcases List.mem_cons.mp h with rfl | h
    · exact List.mem_append_left _ (by simp [partitionEntries])
    · exact List.mem_append_right _ (ih h)

/-- Paths that are all new, and made once. -/
def Fresh (present paths : List SnapshotPath) : Prop :=
  paths.Nodup ∧ ∀ q ∈ paths, q ∉ present

theorem Fresh.append {present paths : List SnapshotPath} (h : Fresh present paths)
    (paths' : List SnapshotPath) (h' : Fresh (present ++ paths) paths') : Fresh present (paths ++ paths') := by
  refine ⟨List.nodup_append.mpr ⟨h.1, h'.1, fun q hq q' hq' heq => ?_⟩, fun q hq hpresent => ?_⟩
  · exact h'.2 q' hq' (List.mem_append_right _ (heq ▸ hq))
  · rcases List.mem_append.mp hq with hq | hq
    · exact h.2 q hq hpresent
    · exact h'.2 q hq (List.mem_append_left _ hpresent)

variable (Digest) in
theorem fresh_directoryEntry (present : List SnapshotPath) (q : SnapshotPath) :
    Fresh present ((directoryEntry present q : SnapshotTree Digest).map (·.1)) := by
  unfold directoryEntry
  split
  · exact ⟨List.nodup_nil, fun q hq => absurd hq List.not_mem_nil⟩
  · next h =>
    refine ⟨List.nodup_singleton q, fun q' hq' => ?_⟩
    rw [List.mem_singleton.mp hq']
    exact h

variable (Digest) in
/-- A directory is new after other paths. -/
theorem Fresh.append_directory {present paths : List SnapshotPath} (h : Fresh present paths)
    {q : SnapshotPath} (hq : q ∉ paths) :
    Fresh present (paths ++ (directoryEntry present q : SnapshotTree Digest).map (·.1)) := by
  have hnext := fresh_directoryEntry Digest (present ++ paths) q
  rw [directoryEntry_append hq] at hnext
  exact h.append _ hnext

/-- The paths of one partition are new. -/
theorem fresh_partitionEntries {present : List SnapshotPath} {month : ℤ} {rows : List Candle}
    (hfresh : SnapshotPath.candles month ∉ present) :
    Fresh present ((partitionEntries present month rows : SnapshotTree Digest).map (·.1)) := by
  have hyear := Fresh.append_directory Digest (fresh_directoryEntry Digest present .partitions)
    (q := .year (month / 12)) fun hmem => by cases mem_paths_directoryEntry hmem
  have hmonth := Fresh.append_directory Digest hyear (q := .month month) fun hmem => by
    rcases List.mem_append.mp hmem with hmem | hmem <;> cases mem_paths_directoryEntry hmem
  have hlink := hmonth.append [.candles month]
    ⟨List.nodup_singleton _, fun q hq hmem => ?_⟩
  · simpa only [partitionEntries, List.map_append, List.append_assoc, List.map_cons,
      List.map_nil] using hlink
  · rw [List.mem_singleton.mp hq] at hmem
    simp only [List.mem_append] at hmem
    rcases hmem with hmem | (hmem | hmem) | hmem
    · exact hfresh hmem
    all_goals cases mem_paths_directoryEntry hmem

/-- The paths of some partitions are new. -/
theorem fresh_linkedEntries {partitions : PartitionFiles} {present : List SnapshotPath}
    {months : List ℤ} (hnodup : months.Nodup)
    (hfresh : ∀ month ∈ months, SnapshotPath.candles month ∉ present) :
    Fresh present ((linkedEntries partitions present months : SnapshotTree Digest).map (·.1)) := by
  induction months generalizing present with
  | nil => exact ⟨List.nodup_nil, fun q hq => absurd hq List.not_mem_nil⟩
  | cons month months ih =>
    obtain ⟨hmonth, hrest⟩ := List.nodup_cons.mp hnodup
    rw [linkedEntries, List.map_append]
    refine (fresh_partitionEntries (hfresh month List.mem_cons_self)).append _
      (ih hrest fun m hm hmem => ?_)
    rcases List.mem_append.mp hmem with hmem | hmem
    · exact hfresh m (List.mem_cons_of_mem month hm) hmem
    · obtain ⟨e, he, heq⟩ := List.mem_map.mp hmem
      rcases mem_partitionEntries he with rfl | ⟨-, hdir | ⟨_, hdir⟩ | ⟨_, hdir⟩⟩
      · cases heq
        exact hmonth hm
      all_goals rw [hdir] at heq; cases heq

/-- The paths of a snapshot directory are different from each other. -/
theorem nodup_treeEntries {partitions : PartitionFiles} (h : (p.selected.map (·.month)).Nodup) :
    ((treeEntries partitions p).map (·.1)).Nodup := by
  rw [treeEntries, List.map_append]
  refine ((fresh_linkedEntries h fun _ _ => List.not_mem_nil).append
    [.manifest, .metadata] ⟨by simp, fun q hq hmem => ?_⟩).1
  rw [List.nil_append] at hmem
  obtain ⟨e, he, rfl⟩ := List.mem_map.mp hmem
  simp [ne_of_mem_linkedEntries he] at hq

/-! ### A removal -/

theorem partsLe_total (p q : List ℤ) : partsLe p q = true ∨ partsLe q p = true := by
  induction p generalizing q with
  | nil => exact .inl rfl
  | cons a as ih =>
    cases q with
    | nil => exact .inr rfl
    | cons b bs =>
      simp only [partsLe, Bool.or_eq_true, decide_eq_true_eq, Bool.and_eq_true, beq_iff_eq]
      rcases lt_trichotomy a b with hlt | rfl | hgt
      · exact .inl (.inl hlt)
      · exact (ih bs).imp (fun h => .inr ⟨rfl, h⟩) fun h => .inr ⟨rfl, h⟩
      · exact .inr (.inl hgt)

theorem partsLe_trans {p q s : List ℤ} (hpq : partsLe p q = true) (hqs : partsLe q s = true) :
    partsLe p s = true := by
  induction p generalizing q s with
  | nil => rfl
  | cons a as ih =>
    cases q with
    | nil => cases hpq
    | cons b bs =>
      cases s with
      | nil => cases hqs
      | cons c cs =>
        simp only [partsLe, Bool.or_eq_true, decide_eq_true_eq, Bool.and_eq_true,
          beq_iff_eq] at hpq hqs ⊢
        rcases hpq with hab | ⟨rfl, has⟩
        · rcases hqs with hbc | ⟨rfl, -⟩
          · exact .inl (hab.trans hbc)
          · exact .inl hab
        · rcases hqs with hbc | ⟨rfl, hbs⟩
          · exact .inl hbc
          · exact .inr ⟨rfl, ih has hbs⟩

/-- What lies below a path comes after it. -/
theorem eq_of_isPrefixOf {p q : List ℤ} (hbelow : p.isPrefixOf q = true)
    (hle : partsLe q p = true) : p = q := by
  induction p generalizing q with
  | nil =>
    cases q with
    | nil => rfl
    | cons b bs => cases hle
  | cons a as ih =>
    cases q with
    | nil => cases hbelow
    | cons b bs =>
      simp only [List.isPrefixOf, Bool.and_eq_true, beq_iff_eq] at hbelow
      simp only [partsLe, Bool.or_eq_true, decide_eq_true_eq, Bool.and_eq_true, beq_iff_eq] at hle
      obtain ⟨rfl, hbelow⟩ := hbelow
      rcases hle with hlt | ⟨-, hle⟩
      · exact absurd hlt (lt_irrefl a)
      · rw [ih hbelow hle]

/-- A path that comes first in the removal is not a directory around a later one. -/
theorem inside_eq_false {p q : SnapshotPath} (h : partsLe q.parts p.parts = true) :
    SnapshotPath.inside q p = false := by
  rw [SnapshotPath.inside, Bool.and_eq_false_iff]
  cases hbelow : p.parts.isPrefixOf q.parts with
  | false => exact .inl rfl
  | true => exact .inr (by simp [eq_of_isPrefixOf hbelow h])

variable (published) in
/-- The order of a removal visits every path once, from the inside out. -/
theorem removing_removalOrder (t : SnapshotTree Digest) (h : (t.map (·.1)).Nodup) :
    Removing SnapshotPath.inside published (removalOrder (t.map (·.1))) ⟨some t, published⟩ := by
  have hperm := List.perm_insertionSort (fun p q : SnapshotPath => partsLe q.parts p.parts = true)
    (t.map (·.1))
  have htotal : Std.Total fun p q : SnapshotPath => partsLe q.parts p.parts = true :=
    ⟨fun p q => partsLe_total q.parts p.parts⟩
  have htrans : IsTrans SnapshotPath fun p q => partsLe q.parts p.parts = true :=
    ⟨fun p q s hpq hqs => partsLe_trans hqs hpq⟩
  refine ⟨⟨t, rfl, fun q => hperm.mem_iff.symm⟩, hperm.nodup_iff.mpr h, ?_, fun q _ => ?_⟩
  · exact (List.pairwise_insertionSort _ _).imp fun hle => inside_eq_false hle
  · simp [SnapshotPath.inside]

/-- The operations of a removal. -/
def removalOps (t : SnapshotTree Digest) : List (SnapshotArea Digest → SnapshotArea Digest) :=
  (removalOrder (t.map (·.1))).map drop ++ [discard]

/-- **A removal** takes the entries away from the inside out, and then the directory. -/
theorem straight_removeStagingTree (h : (t.map (·.1)).Nodup) :
    Process.Straight osError removeStagingTree ⟨some t, published⟩ (removalOps t) := by
  obtain ⟨hloop, hleft⟩ := (removing_removalOrder published t h).straight osError
  refine Process.straight_read ?_
  rw [Option.isSome_some, if_pos rfl]
  refine hloop.bind ?_
  rw [hleft]
  exact straight_removeStaging osError published

theorem length_removalOps : (removalOps t).length = t.length + 1 := by
  simp [removalOps, removalOrder]

/-- What a removal leaves that was killed: the directory, unless every operation went through. -/
theorem removal_killed (h : (t.map (·.1)).Nodup) (k : ℕ) :
    (k ≤ t.length → ∃ t', (removeStagingTree ⟨some t, published⟩
      (List.replicate k .pass ++ [.crash])).final ⟨some t, published⟩ = ⟨some t', published⟩) ∧
    (t.length < k → (removeStagingTree ⟨some t, published⟩
      (List.replicate k .pass ++ [.crash])).final ⟨some t, published⟩ = ⟨none, published⟩) := by
  rw [straight_removeStagingTree h]
  constructor
  · intro hk
    obtain ⟨⟨-, hfinal⟩, -⟩ := Process.runAll_stopped osError (removalOps t) k []
      ⟨some t, published⟩ (by rw [length_removalOps]; omega)
    rw [hfinal, removalOps, List.take_append_of_le_length (by simpa [removalOrder] using hk),
      ← List.map_take]
    exact applyAll_drop _ t
  · intro hk
    obtain ⟨-, hfinal, -⟩ := Process.runAll_passed osError (removalOps t) k [.crash]
      ⟨some t, published⟩ (by rw [length_removalOps]; omega)
    rw [hfinal, removalOps, Process.applyAll_append,
      ((removing_removalOrder published t h).straight osError).2]
    rfl

/-! ### A build -/

variable {Bytes : Type} [DecidableEq Digest] {store : Storage Bytes Digest}
  {identify : SnapshotIdentity Digest} {maxPartitions : ℕ} {st : DerivedState Bytes Digest}
  {plan : ResamplingPlan}

/-- The directory that is published. -/
def publishedTree (partitions : PartitionFiles) (p : Prepared Digest) (r : DataRange)
    (createdAt : String) : SnapshotTree Digest :=
  (treeEntries partitions p).map fun e =>
    if e.1 = .metadata then (.metadata, .metadata (p.snapshot r createdAt)) else e

/-- The operations of a build, after the temporary directory is made. -/
def buildOps (partitions : PartitionFiles) (p : Prepared Digest) (r : DataRange)
    (createdAt : String) : List (SnapshotArea Digest → SnapshotArea Digest) :=
  adds (treeEntries partitions p) ++
    [StagingArea.set .metadata (.metadata (p.snapshot r createdAt)), rename]

theorem Described.nodup (hd : Described store identify st r p) :
    (p.selected.map (·.month)).Nodup := by
  rw [hd.selected]
  exact (hd.months.imp fun h => h.ne).sublist (List.filter_sublist.map _)

variable (createdAt) in
/-- **The operations of a build**: the entries one after the other, then the metadata, then the
rename. -/
theorem straight_buildTree (hd : Described store identify st r p) :
    Process.Straight osError (buildTree identify st p (p.snapshot r createdAt)) ⟨some [], none⟩
      (buildOps st.partitions p r createdAt) := by
  set linked : SnapshotTree Digest := linkedEntries st.partitions [] (p.selected.map (·.month))
    with hlinked
  have hlinks : Process.Straight osError
      (Process.forEach (p.selected.map (·.month)) (linkPartition st.partitions))
      (⟨some [], none⟩ : SnapshotArea Digest) (adds linked) := by
    refine straight_linkPartitions (t := []) (fun month hmonth => ?_) hd.nodup
      fun _ _ => List.not_mem_nil
    obtain ⟨s, hs, rfl⟩ := List.mem_map.mp hmonth
    obtain ⟨rows, hrows, -⟩ := hd.rows s (hd.mem_partitions hs)
    rw [hrows]
    exact Option.some_ne_none rows
  have hother : ∀ q : SnapshotPath, q ∈ linked.map (·.1) → q ≠ .manifest ∧ q ≠ .metadata := by
    intro q hq
    obtain ⟨e, he, rfl⟩ := List.mem_map.mp hq
    exact ne_of_mem_linkedEntries he
  have hmanifest : Process.Straight osError
      (linkFile (st.manifest.map SnapshotNode.manifest) .manifest) ⟨some linked, none⟩
      (adds [(SnapshotPath.manifest, SnapshotNode.manifest p.manifest)]) := by
    rw [hd.manifest]
    exact straight_addEntry osError (SnapshotNode.manifest p.manifest) fun hmem =>
      (hother _ hmem).1 rfl
  have hcontract : (ofExcept (validateSnapshotContract identify (p.snapshot r createdAt)
      p.manifest) : SnapshotProcess Digest Unit) = pure () := by
    rw [hd.contract createdAt]
    rfl
  have hops : buildOps st.partitions p r createdAt = adds linked ++
      (adds [(SnapshotPath.manifest, SnapshotNode.manifest p.manifest)] ++
        ([] ++ ((adds [(SnapshotPath.metadata, SnapshotNode.incomplete)] ++
          [StagingArea.set .metadata (.metadata (p.snapshot r createdAt))]) ++ [rename]))) := by
    simp [buildOps, treeEntries, adds, hlinked]
  rw [hops]
  refine hlinks.bind ?_
  rw [applyAll_adds, List.nil_append]
  refine hmanifest.bind ?_
  rw [applyAll_adds, hcontract]
  refine (Process.straight_pure _ _).bind ?_
  refine Process.Straight.bind ((straight_addEntry osError _ fun hmem => ?_).bind ?_) ?_
  · rw [List.map_append] at hmem
    rcases List.mem_append.mp hmem with hmem | hmem
    · exact (hother _ hmem).2 rfl
    · simp at hmem
  · exact straight_setEntry osError _ (by simp)
  · exact straight_publish osError _

omit [DecidableEq Digest] in
theorem length_buildOps {partitions : PartitionFiles} :
    (buildOps partitions p r createdAt).length = (treeEntries partitions p).length + 2 := by
  simp [buildOps, adds]

omit [DecidableEq Digest] in
/-- What a whole build leaves. -/
theorem applyAll_buildOps {partitions : PartitionFiles} :
    Process.applyAll (buildOps partitions p r createdAt) ⟨some [], none⟩ =
      ⟨none, some (publishedTree partitions p r createdAt)⟩ := by
  rw [buildOps, Process.applyAll_append, applyAll_adds, List.nil_append]
  rfl

variable (createdAt) in
omit [DecidableEq Digest] in
/-- **What a build leaves that was cut short**: the entries made so far, and nothing published. -/
theorem applyAll_take_buildOps {partitions : PartitionFiles} {k : ℕ}
    (hk : k < (treeEntries partitions p).length + 2) :
    ∃ t, Process.applyAll ((buildOps partitions p r createdAt).take k) ⟨some [], none⟩ =
        ⟨some t, none⟩ ∧
      t.map (·.1) = ((treeEntries partitions p).take k).map (·.1) := by
  have hlength : (adds (treeEntries partitions p)).length = (treeEntries partitions p).length :=
    List.length_map _
  rw [buildOps, List.take_append, Process.applyAll_append, hlength, adds, ← List.map_take]
  change ∃ t, Process.applyAll _ (Process.applyAll (adds _) _) = _ ∧ _
  rw [applyAll_adds, List.nil_append]
  rcases Nat.lt_or_ge (treeEntries partitions p).length k with hlt | hge
  · obtain rfl : k = (treeEntries partitions p).length + 1 := by omega
    rw [Nat.add_sub_cancel_left, List.take_of_length_le (Nat.le_succ _)]
    refine ⟨_, rfl, ?_⟩
    rw [List.map_map]
    refine List.map_congr_left fun e _ => ?_
    simp only [Function.comp_apply]
    split
    · next h => exact h.symm
    · rfl
  · rw [Nat.sub_eq_zero_of_le hge]
    exact ⟨_, rfl, rfl⟩

variable (createdAt) in
/-- **The published directory holds the snapshot.** -/
theorem holdsSnapshot_publishedTree (hd : Described store identify st r p) :
    HoldsSnapshot st (p.snapshot r createdAt) (publishedTree st.partitions p r createdAt) := by
  have hmem : ∀ e ∈ publishedTree st.partitions p r createdAt,
      e = (.metadata, .metadata (p.snapshot r createdAt)) ∨
      e = (.manifest, .manifest p.manifest) ∨
      e ∈ linkedEntries st.partitions [] (p.selected.map (·.month)) := by
    intro e he
    obtain ⟨e', he', rfl⟩ := List.mem_map.mp he
    split
    · exact .inl rfl
    · next hne =>
      rcases List.mem_append.mp he' with he' | he'
      · exact .inr (.inr he')
      · simp only [List.mem_cons, List.not_mem_nil, or_false] at he'
        rcases he' with rfl | rfl
        · exact .inr (.inl rfl)
        · exact absurd rfl hne
  refine ⟨lookup_eq_some ?_ ?_, ?_, fun month hmonth => ?_⟩
  · exact List.mem_map.mpr ⟨(.metadata, .incomplete), by simp [treeEntries], rfl⟩
  · intro e he hpath
    rcases hmem e he with rfl | rfl | he
    · rfl
    · cases hpath
    · exact absurd hpath (ne_of_mem_linkedEntries he).2
  · rw [hd.manifest]
    refine lookup_eq_some ?_ ?_
    · exact List.mem_map.mpr ⟨(.manifest, .manifest p.manifest), by simp [treeEntries], rfl⟩
    · intro e he hpath
      rcases hmem e he with rfl | rfl | he
      · cases hpath
      · rfl
      · exact absurd hpath (ne_of_mem_linkedEntries he).1
  · obtain ⟨s, hs, rfl⟩ := List.mem_map.mp hmonth
    obtain ⟨rows, hrows, -⟩ := hd.rows s (hd.mem_partitions hs)
    have hat : st.partitions.rowsAt s.month = rows := by rw [PartitionFiles.rowsAt, hrows]; rfl
    rw [hrows, Option.map_some]
    refine lookup_eq_some ?_ ?_
    · refine List.mem_map.mpr ⟨(.candles s.month, .candles rows), ?_, rfl⟩
      rw [← hat]
      exact List.mem_append_left _ (candles_mem_linkedEntries (List.mem_map_of_mem hs))
    · intro e he hpath
      rcases hmem e he with rfl | rfl | he
      · cases hpath
      · cases hpath
      · rcases mem_linkedEntries he with ⟨m, -, rfl⟩ | ⟨-, hdir | ⟨_, hdir⟩ | ⟨_, hdir⟩⟩
        · cases hpath
          rw [hat]
        all_goals rw [hdir] at hpath; cases hpath

/-! ### Attempts -/

/-- How a call was killed. -/
inductive Interruption
  /-- After some operations. -/
  | killed (operations : ℕ)
  /-- In the removal of the temporary directory, after the operation that followed some others had
  failed; it may have taken effect. -/
  | failed (operations : ℕ) (took : Bool) (removals : ℕ)

/-- What happens to the operations of a call. -/
def Interruption.faults : Interruption → List Fault
  | .killed n => List.replicate n .pass ++ [.crash]
  | .failed n took k => List.replicate n .pass ++
      (if took then .raiseAfter else .raiseBefore) :: (List.replicate k .pass ++ [.crash])

/-- How many operations took effect before the call stopped. -/
def Interruption.made : Interruption → ℕ
  | .killed n => n
  | .failed n took _ => n + took.toNat

/-- The temporary directory was removed again. -/
def Interruption.removed (entries : ℕ) : Interruption → Bool
  | .killed _ => false
  | .failed n took k => decide (0 < n ∧ min (n + took.toNat - 1) entries < k)

/-- An earlier call, and how it was killed. -/
structure Attempt where
  createdAt : String
  interruption : Interruption

/-- The call had renamed the directory, which has so many entries, before it was killed. -/
def Attempt.Publishes (entries : ℕ) (x : Attempt) : Prop := entries + 3 ≤ x.interruption.made

/-- **The call was killed while its temporary directory was there.** -/
def Attempt.Interrupted (entries : ℕ) (x : Attempt) : Prop :=
  (0 < x.interruption.made ∧ x.interruption.made < entries + 3) ∧
    x.interruption.removed entries = false

instance (entries : ℕ) (x : Attempt) : Decidable (x.Publishes entries) :=
  inferInstanceAs (Decidable (_ ≤ _))

instance (entries : ℕ) (x : Attempt) : Decidable (x.Interrupted entries) :=
  inferInstanceAs (Decidable (_ ∧ _))

/-- No call is interrupted before one publishes. -/
def Unharmed (entries : ℕ) : List Attempt → Prop
  | [] => True
  | x :: rest => x.Publishes entries ∨ ¬ x.Interrupted entries ∧ Unharmed entries rest

/-- What an earlier call leaves. -/
def Attempt.run (identify : SnapshotIdentity Digest) (store : Storage Bytes Digest)
    (maxPartitions : ℕ) (st : DerivedState Bytes Digest) (plan : ResamplingPlan) (r : DataRange)
    (a : SnapshotArea Digest) (x : Attempt) : SnapshotArea Digest :=
  (create identify store maxPartitions st plan r x.createdAt a x.interruption.faults).final a

/-- What earlier calls leave, one after the other. -/
def afterAttempts (identify : SnapshotIdentity Digest) (store : Storage Bytes Digest)
    (maxPartitions : ℕ) (st : DerivedState Bytes Digest) (plan : ResamplingPlan) (r : DataRange)
    (attempts : List Attempt) : SnapshotArea Digest :=
  attempts.foldl (Attempt.run identify store maxPartitions st plan r) clean

/-- How many entries the directory of the snapshot has. -/
def entryCount (identify : SnapshotIdentity Digest) (store : Storage Bytes Digest)
    (maxPartitions : ℕ) (st : DerivedState Bytes Digest) (plan : ResamplingPlan) (r : DataRange) :
    ℕ :=
  match prepare store identify maxPartitions st plan r with
  | .ok p => (treeEntries st.partitions p).length
  | .error _ => 0

/-- A call whose checks pass finds the snapshot, or builds it. -/
theorem create_of_prepare (hp : prepare store identify maxPartitions st plan r = .ok p) :
    create identify store maxPartitions st plan r createdAt =
      publishSnapshot identify store st p r createdAt := by
  unfold create
  rw [hp]
  rfl

/-- The checks of a call that returned have passed. -/
theorem prepare_of_returned {a : SnapshotArea Digest} {fs : List Fault}
    {s : DatasetSnapshot Digest}
    (h : (create identify store maxPartitions st plan r createdAt a fs).outcome = .returned s) :
    ∃ p, prepare store identify maxPartitions st plan r = .ok p := by
  cases hp : prepare store identify maxPartitions st plan r with
  | ok p => exact ⟨p, rfl⟩
  | error e =>
    unfold create at h
    rw [hp] at h
    cases h

/-- **A call that finds a temporary directory** raises, and leaves it. -/
theorem publishSnapshot_abandoned (fs : List Fault) :
    (∀ s, (publishSnapshot identify store st p r createdAt ⟨some t, none⟩ fs).outcome ≠
      .returned s) ∧
    (publishSnapshot identify store st p r createdAt ⟨some t, none⟩ fs).final ⟨some t, none⟩ =
      ⟨some t, none⟩ := by
  cases fs with
  | nil => exact ⟨fun s => nofun, rfl⟩
  | cons f fs => cases f <;> exact ⟨fun s => nofun, rfl⟩

variable (createdAt) in
/-- **A call that finds the published directory** changes nothing. -/
theorem publishSnapshot_published (hd : Described store identify st r p) (published : String)
    (fs : List Fault) :
    let a : SnapshotArea Digest := ⟨none, some (publishedTree st.partitions p r published)⟩
    (publishSnapshot identify store st p r createdAt a fs).final a = a ∧
      ((∃ s, (publishSnapshot identify store st p r createdAt a fs).outcome = .returned s) ↔
        rangeCandles st r (p.selected.map (·.month)) ≠ []) ∧
      ∀ s, (publishSnapshot identify store st p r createdAt a fs).outcome = .returned s →
        s = p.snapshot r published := by
  intro a
  have ht := holdsSnapshot_publishedTree published hd
  have hrun : publishSnapshot identify store st p r createdAt a fs =
      ofExcept (findExisting store identify p r (publishedTree st.partitions p r published)) a
        fs := by
    change (if (StagingArea.lookup (publishedTree st.partitions p r published)
      .metadata).isSome then _ else _ : SnapshotProcess Digest (DatasetSnapshot Digest)) a fs = _
    rw [ht.metadata]
    rfl
  rw [hrun, findExisting_eq hd ht]
  by_cases hnone : rangeCandles st r (p.selected.map (·.month)) = []
  · rw [if_pos hnone]
    have hraised : ∀ s, (ofExcept (FailureKind.marketDataInconsistency.raiseWith
        "O snapshot idempotente está incompleto.") a fs).outcome ≠
          (.returned s : Outcome Failure (DatasetSnapshot Digest)) := fun s => nofun
    exact ⟨rfl, ⟨fun ⟨s, hs⟩ => absurd hs (hraised s), fun h => absurd hnone h⟩,
      fun s hs => absurd hs (hraised s)⟩
  · rw [if_neg hnone]
    refine ⟨rfl, ⟨fun _ => hnone, fun _ => ⟨_, rfl⟩⟩, fun s hs => ?_⟩
    cases hs
    rfl

/-- What a call leaves that made its temporary directory. -/
theorem publishSnapshot_clean (fs : List Fault) :
    (publishSnapshot identify store st p r createdAt clean (.pass :: fs)).final clean =
      (Process.onRaise (buildTree identify st p (p.snapshot r createdAt))
        (fun _ => removeStagingTree) ⟨some [], none⟩ fs).final ⟨some [], none⟩ := by
  have hact : (operation StagingArea.makeStaging (clean : SnapshotArea Digest)
      (.pass :: fs)).outcome = .returned () := rfl
  obtain ⟨-, hfinal, -⟩ := Process.andThen_of_returned (q := fun _ =>
    Process.onRaise (buildTree identify st p (p.snapshot r createdAt))
      (fun _ => removeStagingTree) >>= fun _ => pure (p.snapshot r createdAt)) hact
  exact hfinal.trans (Process.final_bind_pure _ _ _ _)

/-- A build, with the removal of what a failed one leaves. -/
def guardedBuild (identify : SnapshotIdentity Digest) (st : DerivedState Bytes Digest)
    (p : Prepared Digest) (r : DataRange) (createdAt : String) : SnapshotProcess Digest Unit :=
  Process.onRaise (buildTree identify st p (p.snapshot r createdAt)) fun _ => removeStagingTree

variable (createdAt) in
/-- A build that goes through. -/
theorem guardedBuild_passed (hd : Described store identify st r p) {n : ℕ}
    (hn : (treeEntries st.partitions p).length + 2 ≤ n) (fs : List Fault) :
    let run := guardedBuild identify st p r createdAt ⟨some [], none⟩ (List.replicate n .pass ++ fs)
    run.outcome = .returned () ∧
      run.final ⟨some [], none⟩ = ⟨none, some (publishedTree st.partitions p r createdAt)⟩ := by
  intro run
  obtain ⟨houtcome, hfinal, -⟩ := Process.runAll_passed osError
    (buildOps st.partitions p r createdAt) n fs ⟨some [], none⟩ (by rwa [length_buildOps])
  rw [← straight_buildTree _ hd] at houtcome hfinal
  have hrun : run = buildTree identify st p (p.snapshot r createdAt) ⟨some [], none⟩
      (List.replicate n .pass ++ fs) :=
    Process.onRaise_of_not_raised (by rw [houtcome]; exact fun e => nofun)
  rw [hrun, houtcome, hfinal, applyAll_buildOps]
  exact ⟨rfl, rfl⟩

variable (createdAt) in
/-- A build that is killed leaves its temporary directory. -/
theorem guardedBuild_killed (hd : Described store identify st r p) {n : ℕ}
    (hn : n < (treeEntries st.partitions p).length + 2) :
    ∃ t, (guardedBuild identify st p r createdAt ⟨some [], none⟩
      (List.replicate n .pass ++ [.crash])).final ⟨some [], none⟩ = ⟨some t, none⟩ := by
  obtain ⟨⟨houtcome, hfinal⟩, -⟩ := Process.runAll_stopped osError
    (buildOps st.partitions p r createdAt) n [] ⟨some [], none⟩ (by rwa [length_buildOps])
  rw [← straight_buildTree _ hd] at houtcome hfinal
  have hrun : guardedBuild identify st p r createdAt ⟨some [], none⟩
      (List.replicate n .pass ++ [.crash]) = buildTree identify st p (p.snapshot r createdAt)
        ⟨some [], none⟩ (List.replicate n .pass ++ [.crash]) :=
    Process.onRaise_of_not_raised (by rw [houtcome]; exact fun e => nofun)
  obtain ⟨t, ht, -⟩ := applyAll_take_buildOps (r := r) createdAt hn
  exact ⟨t, by rw [hrun, hfinal, ht]⟩

variable (createdAt) in
/-- **A build that fails** has published the directory when the rename took effect; else it leaves
its temporary directory, unless every entry and the directory were removed again. -/
theorem guardedBuild_failed (hd : Described store identify st r p) {n : ℕ}
    (hn : n < (treeEntries st.partitions p).length + 2) (took : Bool) (k : ℕ) :
    let left := (guardedBuild identify st p r createdAt ⟨some [], none⟩
      (List.replicate n .pass ++ (if took then .raiseAfter else .raiseBefore) ::
        (List.replicate k .pass ++ [.crash]))).final ⟨some [], none⟩
    ((treeEntries st.partitions p).length + 2 ≤ n + took.toNat →
      left = ⟨none, some (publishedTree st.partitions p r createdAt)⟩) ∧
    (n + took.toNat < (treeEntries st.partitions p).length + 2 →
      (k ≤ min (n + took.toNat) (treeEntries st.partitions p).length →
        ∃ t, left = ⟨some t, none⟩) ∧
      (min (n + took.toNat) (treeEntries st.partitions p).length < k → left = clean)) := by
  intro left
  obtain ⟨-, hraised⟩ := Process.runAll_stopped osError (buildOps st.partitions p r createdAt) n
    (List.replicate k .pass ++ [.crash]) ⟨some [], none⟩ (by rwa [length_buildOps])
  obtain ⟨houtcome, hfinal, hfaults⟩ := hraised took
  rw [← straight_buildTree _ hd] at houtcome hfinal hfaults
  have hleft := Process.onRaise_final (h := fun _ => removeStagingTree) houtcome hfinal
  rw [hfaults] at hleft
  change left = _ at hleft
  rw [hleft]
  constructor
  · intro hall
    rw [List.take_of_length_le (by rwa [length_buildOps]), applyAll_buildOps]
    rfl
  · intro hsome
    obtain ⟨t, ht, hpaths⟩ := applyAll_take_buildOps (r := r) createdAt hsome
    have hnodup : (t.map (·.1)).Nodup := by
      rw [hpaths]
      exact (nodup_treeEntries hd.nodup).sublist ((List.take_sublist _ _).map _)
    have hsize : t.length = min (n + took.toNat) (treeEntries st.partitions p).length := by
      simpa using congrArg List.length hpaths
    rw [ht, ← hsize]
    exact removal_killed hnodup k

/-- **What a call leaves that found nothing**: the published directory, its temporary one, or
nothing. -/
theorem run_clean (hp : prepare store identify maxPartitions st plan r = .ok p)
    (hd : Described store identify st r p) (x : Attempt) :
    let entries := (treeEntries st.partitions p).length
    (x.Publishes entries → x.run identify store maxPartitions st plan r clean =
      ⟨none, some (publishedTree st.partitions p r x.createdAt)⟩) ∧
    (x.Interrupted entries →
      ∃ t, x.run identify store maxPartitions st plan r clean = ⟨some t, none⟩) ∧
    (¬ x.Publishes entries → ¬ x.Interrupted entries →
      x.run identify store maxPartitions st plan r clean = clean) := by
  intro entries
  obtain ⟨createdAt, interruption⟩ := x
  simp only [Attempt.Publishes, Attempt.Interrupted, Attempt.run, create_of_prepare hp]
  cases interruption with
  | killed n =>
    simp only [Interruption.made, Interruption.removed, Interruption.faults]
    cases n with
    | zero => exact ⟨fun h => absurd h (by omega), fun h => absurd h.1.1 (by omega), fun _ _ => rfl⟩
    | succ n =>
      rw [List.replicate_succ, List.cons_append, publishSnapshot_clean]
      refine ⟨fun h => ?_, fun h => ?_, fun h h' => absurd ⟨⟨?_, ?_⟩, trivial⟩ h'⟩
      · exact (guardedBuild_passed _ hd (by omega) _).2
      · exact guardedBuild_killed _ hd (by omega)
      · omega
      · omega
  | failed n took k =>
    simp only [Interruption.made, Interruption.removed, Interruption.faults, decide_eq_false_iff_not]
    cases n with
    | zero =>
      cases took with
      | false =>
        refine ⟨fun h => absurd h ?_, fun h => absurd h.1.1 ?_, fun _ _ => rfl⟩
        · simp
        · simp
      | true =>
        refine ⟨fun h => absurd h ?_, fun _ => ⟨[], rfl⟩, fun _ h => absurd ?_ h⟩
        · simp
        · simp
    | succ n =>
      rw [List.replicate_succ, List.cons_append, publishSnapshot_clean]
      have hmade : n + 1 + took.toNat = n + took.toNat + 1 := by omega
      rw [hmade]
      rcases Nat.lt_or_ge n (entries + 2) with hn | hn
      · obtain ⟨hpublished, hleft⟩ := guardedBuild_failed createdAt hd hn took k
        refine ⟨fun h => hpublished (by omega), fun h => ?_, fun h h' => ?_⟩
        · exact (hleft (by omega)).1 (by omega)
        · exact (hleft (by omega)).2 (by omega)
      · have hpassed := (guardedBuild_passed createdAt hd hn
          ((if took then .raiseAfter else .raiseBefore) :: (List.replicate k .pass ++ [.crash]))).2
        exact ⟨fun _ => hpassed, fun h => absurd h.1.2 (by omega), fun h => absurd h (by omega)⟩

variable (createdAt) in
/-- A call whose checks pass builds the snapshot when nothing is there. -/
theorem publishSnapshot_clean_nil (hd : Described store identify st r p) :
    let run := publishSnapshot identify store st p r createdAt clean []
    run.outcome = .returned (p.snapshot r createdAt) ∧
      run.final clean = ⟨none, some (publishedTree st.partitions p r createdAt)⟩ := by
  intro run
  have hbuilt := Process.straight_final (straight_buildTree createdAt hd)
    (show ∀ f ∈ ([] : List Fault), f ≠ .crash from fun f hf => absurd hf List.not_mem_nil)
  rw [raisedAfter_nil, applyAll_buildOps] at hbuilt
  have hguarded : guardedBuild identify st p r createdAt ⟨some [], none⟩ [] =
      buildTree identify st p (p.snapshot r createdAt) ⟨some [], none⟩ [] :=
    Process.onRaise_of_not_raised (by rw [hbuilt.1]; exact fun e => nofun)
  have hact : (operation StagingArea.makeStaging (clean : SnapshotArea Digest) []).outcome =
      .returned () := rfl
  obtain ⟨houtcome, hfinal, -⟩ := Process.andThen_of_returned (q := fun _ =>
    guardedBuild identify st p r createdAt >>= fun _ => pure (p.snapshot r createdAt)) hact
  have hreturned : (guardedBuild identify st p r createdAt ⟨some [], none⟩ []).outcome =
      .returned () := by rw [hguarded, hbuilt.1]
  obtain ⟨houtcome', hfinal', -⟩ := Process.andThen_of_returned
    (q := fun _ => (pure (p.snapshot r createdAt) : SnapshotProcess Digest _)) hreturned
  exact ⟨houtcome.trans houtcome', hfinal.trans (hfinal'.trans (by rw [hguarded, hbuilt.2]; rfl))⟩

/-- **What earlier calls leave**: nothing, a temporary directory that some call was interrupted
over, or the published directory. -/
theorem afterAttempts_cases (hp : prepare store identify maxPartitions st plan r = .ok p)
    (hd : Described store identify st r p) (attempts : List Attempt) :
    let a := afterAttempts identify store maxPartitions st plan r attempts
    let entries := (treeEntries st.partitions p).length
    (a = clean ∧ Unharmed entries attempts ∧ ∀ x ∈ attempts, ¬ x.Publishes entries) ∨
    (∃ t, a = ⟨some t, none⟩ ∧ ¬ Unharmed entries attempts) ∨
    ∃ c, a = ⟨none, some (publishedTree st.partitions p r c)⟩ ∧ Unharmed entries attempts ∧
      ∃ x ∈ attempts, x.Publishes entries := by
  intro a entries
  have hfixed : ∀ (b : SnapshotArea Digest) (rest : List Attempt),
      (∀ x : Attempt, x.run identify store maxPartitions st plan r b = b) →
      rest.foldl (Attempt.run identify store maxPartitions st plan r) b = b := by
    intro b rest hb
    induction rest with
    | nil => rfl
    | cons x rest ih => rw [List.foldl_cons, hb x, ih]
  induction attempts with
  | nil => exact .inl ⟨rfl, trivial, fun x hx => absurd hx List.not_mem_nil⟩
  | cons x rest ih =>
    obtain ⟨hpublishes, hinterrupted, hnothing⟩ := run_clean hp hd x
    have ha : a = rest.foldl (Attempt.run identify store maxPartitions st plan r)
      (x.run identify store maxPartitions st plan r clean) := rfl
    by_cases hx : x.Publishes entries
    · refine .inr (.inr ⟨x.createdAt, ?_, .inl hx, x, List.mem_cons_self, hx⟩)
      rw [ha, hpublishes hx]
      refine hfixed _ rest fun y => ?_
      rw [Attempt.run, create_of_prepare hp]
      exact (publishSnapshot_published _ hd _ _).1
    · by_cases hi : x.Interrupted entries
      · obtain ⟨t, ht⟩ := hinterrupted hi
        refine .inr (.inl ⟨t, ?_, fun h => h.elim hx fun h => h.1 hi⟩)
        rw [ha, ht]
        refine hfixed _ rest fun y => ?_
        rw [Attempt.run, create_of_prepare hp]
        exact (publishSnapshot_abandoned _).2
      · rw [hnothing hx hi] at ha
        rcases ih with ⟨hrest, hun, hnone⟩ | ⟨t, hrest, hun⟩ | ⟨c, hrest, hun, y, hy, hpub⟩
        · refine .inl ⟨ha.trans hrest, .inr ⟨hi, hun⟩, fun y hy => ?_⟩
          rcases List.mem_cons.mp hy with rfl | hy
          · exact hx
          · exact hnone y hy
        · exact .inr (.inl ⟨t, ha.trans hrest, fun h => h.elim hx fun h => hun h.2⟩)
        · exact .inr (.inr ⟨c, ha.trans hrest, .inr ⟨hi, hun⟩, y, List.mem_cons_of_mem x hy, hpub⟩)

/-- **When a snapshot can still be created.**  The published directory is complete whatever
happened.  A later call returns the snapshot of an undisturbed one, up to the time of its
creation, and leaves it published and nothing else, exactly when no call was interrupted over its
temporary directory before one published, and some derived candle opens in the range if one did. -/
theorem create_iff {createdAt' : String} {s : DatasetSnapshot Digest}
    (halone : (create identify store maxPartitions st plan r createdAt clean []).outcome =
      .returned s) (attempts : List Attempt) :
    let a := afterAttempts identify store maxPartitions st plan r attempts
    let later := create identify store maxPartitions st plan r createdAt' a []
    let entries := entryCount identify store maxPartitions st plan r
    (∀ t, a.published = some t → ∃ c, HoldsSnapshot st { s with createdAt := c } t) ∧
      ((∃ c t, later.outcome = .returned { s with createdAt := c } ∧
          later.final a = ⟨none, some t⟩ ∧ HoldsSnapshot st { s with createdAt := c } t) ↔
        Unharmed entries attempts ∧ ((∃ x ∈ attempts, x.Publishes entries) →
          ∃ month, ∃ c ∈ st.partitions.rowsAt month, r.contains c.openTime = true)) := by
  intro a later entries
  obtain ⟨p, hp⟩ := prepare_of_returned halone
  have hd := prepare_described hp
  have hentries : entries = (treeEntries st.partitions p).length := by
    simp only [entries, entryCount, hp]
  have hlater : later = publishSnapshot identify store st p r createdAt' a [] := by
    simp only [later, create_of_prepare hp]
  obtain rfl : s = p.snapshot r createdAt := by
    rw [create_of_prepare hp, (publishSnapshot_clean_nil _ hd).1] at halone
    cases halone
    rfl
  rw [hlater, hentries, ← rangeCandles_ne_nil_iff hd]
  rcases afterAttempts_cases hp hd attempts with ⟨ha, hun, hnone⟩ | ⟨t, ha, hun⟩ |
    ⟨c, ha, hun, hpub⟩
  · change a = clean at ha
    rw [ha]
    obtain ⟨houtcome, hfinal⟩ := publishSnapshot_clean_nil createdAt' hd
    refine ⟨fun t => nofun, fun _ => ⟨hun, fun ⟨x, hx, hpub⟩ => absurd hpub (hnone x hx)⟩,
      fun _ => ⟨createdAt', _, houtcome, hfinal, holdsSnapshot_publishedTree _ hd⟩⟩
  · change a = ⟨some t, none⟩ at ha
    rw [ha]
    refine ⟨fun t => nofun, fun ⟨c, _, houtcome, _⟩ => ?_, fun h => absurd h.1 hun⟩
    exact absurd houtcome ((publishSnapshot_abandoned []).1 _)
  · change a = ⟨none, some (publishedTree st.partitions p r c)⟩ at ha
    rw [ha]
    obtain ⟨hfinal, hreturned, hsame⟩ := publishSnapshot_published createdAt' hd c []
    refine ⟨fun t ht => ⟨c, ?_⟩, fun ⟨c', t, houtcome, _⟩ => ⟨hun, fun _ => ?_⟩, fun h => ?_⟩
    · cases ht
      exact holdsSnapshot_publishedTree _ hd
    · exact hreturned.mp ⟨_, houtcome⟩
    · obtain ⟨s, hs⟩ := hreturned.mpr (h.2 hpub)
      refine ⟨c, _, ?_, hfinal, holdsSnapshot_publishedTree _ hd⟩
      rw [hs, hsame s hs]
      rfl

/-! ### One day of two -/

/-- An identity that tells ranges apart. -/
def rangeIdentity : SnapshotIdentity (List Candle) := fun _ _ _ r =>
  toString r.start ++ "-" ++ toString r.stop

/-- The first day of two is derived. -/
def derivedDay : Except Failure (ResamplingPlan × DerivedState (List Candle) (List Candle)) := do
  let plan ← planDays 1 Nat.one_pos
  let made := plainStorage.materialize .exact ⟨twoDays, [], none⟩ plan false
  let _ ← made.1
  return (plan, made.2)

/-- A snapshot of that day is created. -/
theorem derivedDay_created : ∃ plan st s, derivedDay = .ok (plan, st) ∧
    (create rangeIdentity plainStorage 100 st plan (firstDays 1 (by decide)) "t" clean []).outcome =
      .returned s := by
  have hrun : (derivedDay.toOption.map fun x =>
      match (create rangeIdentity plainStorage 100 x.2 x.1 (firstDays 1 (by decide)) "t" clean
        []).outcome with
      | .returned _ => true
      | _ => false) = some true := by
    decide +kernel
  cases hday : derivedDay with
  | error e =>
    rw [hday] at hrun
    cases hrun
  | ok x =>
    obtain ⟨plan, st⟩ := x
    rw [hday] at hrun
    simp only [Except.toOption, Option.map_some, Option.some.injEq] at hrun
    cases hcreate : (create rangeIdentity plainStorage 100 st plan (firstDays 1 (by decide)) "t"
        clean []).outcome with
    | returned s => exact ⟨plan, st, s, rfl, hcreate⟩
    | raised e =>
      rw [hcreate] at hrun
      cases hrun
    | crashed =>
      rw [hcreate] at hrun
      cases hrun

/-- The equivalence, after a call that was killed before its first operation. -/
theorem create_iff_day : ∃ plan st s,
    (create rangeIdentity plainStorage 100 st plan (firstDays 1 (by decide)) "t" clean []).outcome =
      .returned s ∧
    let r := firstDays 1 (by decide)
    let attempts : List Attempt := [⟨"s", .killed 0⟩]
    let a := afterAttempts rangeIdentity plainStorage 100 st plan r attempts
    let later := create rangeIdentity plainStorage 100 st plan r "u" a []
    let entries := entryCount rangeIdentity plainStorage 100 st plan r
    (∀ t, a.published = some t → ∃ c, HoldsSnapshot st { s with createdAt := c } t) ∧
      ((∃ c t, later.outcome = .returned { s with createdAt := c } ∧
          later.final a = ⟨none, some t⟩ ∧ HoldsSnapshot st { s with createdAt := c } t) ↔
        Unharmed entries attempts ∧ ((∃ x ∈ attempts, x.Publishes entries) →
          ∃ month, ∃ c ∈ st.partitions.rowsAt month, r.contains c.openTime = true)) := by
  obtain ⟨plan, st, s, -, hs⟩ := derivedDay_created
  exact ⟨plan, st, s, hs, create_iff hs _⟩

/-- **After a call that was killed once it had made its temporary directory** no later call
returns: each finds the directory in its way. -/
theorem crash_blocks_create : ∃ plan st s,
    (create rangeIdentity plainStorage 100 st plan (firstDays 1 (by decide)) "t" clean []).outcome =
      .returned s ∧
    ∀ createdAt s', (create rangeIdentity plainStorage 100 st plan (firstDays 1 (by decide))
      createdAt (afterAttempts rangeIdentity plainStorage 100 st plan (firstDays 1 (by decide))
        [⟨"s", .killed 1⟩]) []).outcome ≠ .returned s' := by
  obtain ⟨plan, st, s, -, hs⟩ := derivedDay_created
  refine ⟨plan, st, s, hs, fun createdAt s' => ?_⟩
  obtain ⟨p, hp⟩ := prepare_of_returned hs
  have hinterrupted : (⟨"s", .killed 1⟩ : Attempt).Interrupted
      (treeEntries st.partitions p).length :=
    ⟨⟨Nat.one_pos, Nat.lt_add_left _ (by decide)⟩, rfl⟩
  obtain ⟨t, ht⟩ := (run_clean hp (prepare_described hp) _).2.1 hinterrupted
  have hleft : afterAttempts rangeIdentity plainStorage 100 st plan (firstDays 1 (by decide))
      [⟨"s", .killed 1⟩] = ⟨some t, none⟩ := ht
  rw [hleft, create_of_prepare hp]
  exact (publishSnapshot_abandoned []).1 s'

end Snapshots
end MarketData
end DryTrade
