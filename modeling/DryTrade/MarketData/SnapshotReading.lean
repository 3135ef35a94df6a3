import DryTrade.MarketData.Incremental
import DryTrade.MarketData.Snapshots

/-!
# Reading a snapshot

A snapshot whose preparation passed its checks is made of files that the manifest
describes.  The reader therefore never refuses them: it yields the candles of the
partitions that open in the range, in order.

## Main definitions

* `Described` — a prepared snapshot and the files it is made of.
* `HoldsSnapshot` — a directory that holds the snapshot.

## Main results

* `prepare_described` — what a successful preparation has established.
* `iterCandles_eq` — what the reader yields.
* `findExisting_eq` — when a published snapshot is found again.
-/

namespace DryTrade
namespace MarketData
namespace Snapshots

open Storage

variable {Bytes Digest : Type} [DecidableEq Digest] {store : Storage Bytes Digest}
  {identify : SnapshotIdentity Digest} {maxPartitions : ℕ} {st : DerivedState Bytes Digest}
  {plan : ResamplingPlan} {r : DataRange} {p : Prepared Digest} {m : DatasetManifest Digest}

/-! ### What the verification of a derived dataset has established -/

theorem orElse_eq_none_iff {α : Type} {x : Option α} {y : Unit → Option α} :
    x.orElse y = none ↔ x = none ∧ y () = none := by
  cases x <;> simp

omit [DecidableEq Digest] in
/-- A walk that finds nothing has checked every summary. -/
theorem check_of_walkSummaries {check : PartitionSummary Digest → Option DatasetState}
    {seen : List ℤ} {summaries : List (PartitionSummary Digest)}
    (h : walkSummaries check seen summaries = none) : ∀ s ∈ summaries, check s = none := by
  induction summaries generalizing seen with
  | nil => exact fun s hs => (List.not_mem_nil hs).elim
  | cons s summaries ih =>
    unfold walkSummaries at h
    split at h
    · cases h
    · rw [orElse_eq_none_iff] at h
      intro x hx
      rcases List.mem_cons.mp hx with rfl | hx
      · exact h.1
      · exact ih h.2 x hx

omit [DecidableEq Digest] in
/-- What a walk finds is what a check found, or an invalid state. -/
theorem walkSummaries_ne {check : PartitionSummary Digest → Option DatasetState}
    (hcheck : ∀ s, check s ≠ some .complete) (seen : List ℤ)
    (summaries : List (PartitionSummary Digest)) :
    walkSummaries check seen summaries ≠ some .complete := by
  induction summaries generalizing seen with
  | nil => simp [walkSummaries]
  | cons s summaries ih =>
    unfold walkSummaries
    split
    · simp
    · cases hs : check s with
      | none => simpa using ih (s.month :: seen)
      | some state =>
        intro h
        exact hcheck s (hs.trans h)

/-- A check never reports a complete dataset. -/
theorem verdict_ne_complete {verifySourceContent : Bool} :
    store.verdict st plan m verifySourceContent ≠ some .complete := by
  have hsource : ∀ s, (if verifySourceContent then store.checkSourceSummary plan.series st.raw s
      else none) ≠ some .complete := by
    intro s
    unfold checkSourceSummary
    grind
  have htarget : ∀ s, store.checkTargetSummary plan.series st.partitions s ≠ some .complete := by
    intro s
    unfold checkTargetSummary
    grind
  have hwalk := walkSummaries_ne hsource [] m.sourcePartitions
  have hwalk' := walkSummaries_ne htarget [] m.partitions
  unfold verdict
  split
  · simp
  · split
    · simp
    · cases hs : walkSummaries (fun s => if verifySourceContent then
          store.checkSourceSummary plan.series st.raw s else none) [] m.sourcePartitions with
      | some state =>
        rw [hs] at hwalk
        simpa using hwalk
      | none =>
        cases ht : walkSummaries (store.checkTargetSummary plan.series st.partitions) []
            m.partitions with
        | some state =>
          rw [ht] at hwalk'
          simpa using hwalk'
        | none =>
          simp only [Option.orElse_none]
          split <;> simp

/-- A dataset that every check passed. -/
structure Verified (store : Storage Bytes Digest) (st : DerivedState Bytes Digest)
    (plan : ResamplingPlan) (m : DatasetManifest Digest) : Prop where
  manifest : st.manifest = some m
  series : m.series = plan.series
  target : ∀ s ∈ m.partitions, store.checkTargetSummary plan.series st.partitions s = none
  listed : ∀ f ∈ st.partitions, ∃ s ∈ m.partitions, s.month = f.1

/-- **A complete verification** leaves the manifest as it was, and every check passed. -/
theorem verifyUnlocked_verified {st' : DerivedState Bytes Digest}
    (h : store.verifyUnlocked st plan true = .ok (m, st')) (hstate : m.state = .complete) :
    Verified store st plan m := by
  unfold verifyUnlocked at h
  cases hm : st.manifest with
  | none =>
    rw [hm] at h
    simp at h
  | some m₀ =>
    rw [hm] at h
    simp only [loadManifest, bind_eq_ok, FailureKind.unless_eq_ok, exists_const, pure,
      Except.pure, Except.ok.injEq] at h
    obtain ⟨m₁, ⟨-, rfl⟩, h⟩ := h
    cases hverdict : store.verdict st plan m₀ true with
    | some state =>
      rw [hverdict] at h
      cases h
      exact absurd hverdict (by rw [show state = .complete from hstate]; exact verdict_ne_complete)
    | none =>
      rw [hverdict] at h
      cases h
      unfold verdict at hverdict
      split at hverdict
      · cases hverdict
      · next hseries =>
        split at hverdict
        · cases hverdict
        · rw [orElse_eq_none_iff, orElse_eq_none_iff] at hverdict
          obtain ⟨-, htarget, hlast⟩ := hverdict
          refine ⟨hm, ?_, check_of_walkSummaries htarget, ?_⟩
          · by_contra hne
            exact hseries (.inl hne)
          · split at hlast
            · next hlisted => exact hlisted.1
            · cases hlast

/-! ### A prepared snapshot -/

/-- **A prepared snapshot and the files it is made of**: the manifest lists them in order and
describes each, every candle that opens in the range is in one of them, and the contract holds. -/
structure Described (store : Storage Bytes Digest) (identify : SnapshotIdentity Digest)
    (st : DerivedState Bytes Digest) (r : DataRange) (p : Prepared Digest) : Prop where
  manifest : st.manifest = some p.manifest
  selected : p.selected = selectedPartitions p.manifest r
  months : (p.manifest.partitions.map (·.month)).Pairwise (· < ·)
  rows : ∀ s ∈ p.manifest.partitions, ∃ rows, st.partitions.file s.month = some rows ∧
    PartitionRows p.manifest.series.targetIdentity s.month rows ∧
    store.canonicalDigest rows = s.checksum
  listed : ∀ f ∈ st.partitions, ∃ s ∈ p.manifest.partitions, s.month = f.1
  contract : ∀ createdAt,
    validateSnapshotContract identify (p.snapshot r createdAt) p.manifest = .ok ()

theorem Described.mem_partitions (hd : Described store identify st r p)
    {s : PartitionSummary Digest} (hs : s ∈ p.selected) : s ∈ p.manifest.partitions := by
  rw [hd.selected] at hs
  exact (List.mem_filter.mp hs).1

/-- The file of a summary that passed its check. -/
theorem file_of_checkTargetSummary {s : PartitionSummary Digest}
    (h : store.checkTargetSummary plan.series st.partitions s = none) :
    ∃ rows, st.partitions.file s.month = some rows ∧
      PartitionRows plan.series.targetIdentity s.month rows ∧
      store.canonicalDigest rows = s.checksum := by
  unfold checkTargetSummary at h
  cases hfile : st.partitions.file s.month with
  | none => simp [hfile] at h
  | some rows =>
    rw [hfile] at h
    simp only [Option.isNone_some, Bool.false_eq_true, if_false, readDerivedPartition, hfile] at h
    cases hread : readRows plan.series.targetIdentity s.month rows with
    | error e =>
      rw [hread] at h
      simp at h
    | ok rows' =>
      obtain ⟨rfl, hrows⟩ := readRows_eq_ok.mp hread
      rw [hread] at h
      refine ⟨_, rfl, hrows, ?_⟩
      by_contra hne
      have hsummary : store.partitionSummary s.month rows' ≠ s := fun heq =>
        hne (congrArg PartitionSummary.checksum heq)
      simp [hsummary] at h

/-- **What a successful preparation has established.** -/
theorem prepare_described (h : prepare store identify maxPartitions st plan r = .ok p) :
    Described store identify st r p := by
  simp only [prepare, buildSnapshotId, bind_eq_ok, FailureKind.unless_eq_ok, exists_const,
    decide_eq_true_eq, pure, Except.pure, Except.ok.injEq, Prod.exists, Bool.and_eq_true] at h
  obtain ⟨⟨hstart, hstop⟩, m, st', hverify, hstate, _, ⟨_, hcontract, rfl⟩, _, hcoverage, hsome, -,
    hlast⟩ := h
  have hverified := verifyUnlocked_verified hverify hstate
  obtain rfl : p = ⟨m, identify m.series m.targetVersion m.targetChecksum r,
      selectedPartitions m r⟩ := by
    split at hlast
    · simp only [bind_eq_ok, Except.ok.injEq] at hlast
      obtain ⟨-, -, rfl⟩ := hlast
      rfl
    · cases hlast
      rfl
  have hmonths : (m.partitions.map (·.month)).Pairwise (· < ·) := by
    simp only [validateManifestContract, bind_eq_ok, FailureKind.unless_eq_ok, exists_const,
      decide_eq_true_eq] at hcontract
    exact hcontract.2.1
  refine ⟨hverified.manifest, rfl, hmonths, fun s hs => ?_, hverified.listed, fun createdAt => ?_⟩
  · rw [hverified.series]
    exact file_of_checkTargetSummary (hverified.target s hs)
  · simp only [validateSnapshotContract, Prepared.snapshot, bind_eq_ok, FailureKind.unless_eq_ok,
      exists_const, decide_eq_true_eq, hverified.series, hstart, hstop, Bool.and_self, beq_iff_eq]
    exact ⟨_, hcontract, trivial, trivial, trivial, trivial, trivial, _, hcoverage, trivial, hsome,
      trivial⟩

/-! ### Reading -/

/-- **A directory that holds a snapshot**: its metadata, the manifest and every partition. -/
structure HoldsSnapshot (st : DerivedState Bytes Digest) (s : DatasetSnapshot Digest)
    (t : SnapshotTree Digest) : Prop where
  metadata : StagingArea.lookup t .metadata = some (.metadata s)
  manifest : StagingArea.lookup t .manifest = st.manifest.map .manifest
  candles : ∀ month ∈ s.partitions,
    StagingArea.lookup t (.candles month) = (st.partitions.file month).map .candles

/-- The candles of some months that open in a range. -/
def rangeCandles (st : DerivedState Bytes Digest) (r : DataRange) (months : List ℤ) :
    List Candle :=
  months.flatMap fun month => (st.partitions.rowsAt month).filter fun c => r.contains c.openTime

theorem isClosed_of_validate {c : Candle} (h : validateCandleSerialization c true = .ok ()) :
    c.isClosed = true := by
  simp only [validateCandleSerialization, bind_eq_ok, FailureKind.unless_eq_ok, exists_const] at h
  simpa using h.1

/-- The rows of a partition that follow what was yielded are yielded as far as they are covered. -/
theorem iterRows_eq {rows out : List Candle} (hclosed : ∀ c ∈ rows, c.isClosed = true)
    (hrows : rows.Pairwise fun c c' => c.openTime < c'.openTime)
    (hout : ∀ o ∈ out, ∀ c ∈ rows, o.openTime < c.openTime) :
    iterRows r r rows out = .ok (out ++ rows.filter fun c => r.contains c.openTime, false) := by
  induction rows generalizing out with
  | nil => simp [iterRows]
  | cons c rows ih =>
    obtain ⟨hc, hrest⟩ := List.pairwise_cons.mp hrows
    have hclosed' : ∀ c' ∈ rows, c'.isClosed = true :=
      fun c' hc' => hclosed c' (List.mem_cons_of_mem c hc')
    unfold iterRows
    by_cases hin : r.contains c.openTime = true
    · have hbounds : r.start ≤ c.openTime ∧ c.openTime < r.stop := by
        simpa [DataRange.contains] using hin
      have hlast : (out.getLast?.all fun o => decide (o.openTime < c.openTime)) = true := by
        rw [Option.all_eq_true]
        exact fun o ho => decide_eq_true
          (hout o (List.mem_of_getLast? ho) c List.mem_cons_self)
      have hnext : ∀ o ∈ out ++ [c], ∀ c' ∈ rows, o.openTime < c'.openTime := by
        intro o ho c' hc'
        rcases List.mem_append.mp ho with ho | ho
        · exact hout o ho c' (List.mem_cons_of_mem c hc')
        · rw [List.mem_singleton.mp ho]
          exact hc c' hc'
      rw [if_neg (by simp [hin]), if_neg (not_lt.mpr hbounds.1), if_neg (not_le.mpr hbounds.2),
        hclosed c List.mem_cons_self, hlast]
      simp only [FailureKind.unless, if_true, ok_bind]
      rw [ih hclosed' hrest hnext]
      simp [hin]
    · rw [if_pos (by simp [hin]), ih hclosed' hrest
        fun o ho c' hc' => hout o ho c' (List.mem_cons_of_mem c hc')]
      simp [hin]

/-- The partitions of a snapshot are yielded one after the other. -/
theorem iterPartitions_eq {createdAt : String} {t : SnapshotTree Digest}
    (hd : Described store identify st r p) (ht : HoldsSnapshot st (p.snapshot r createdAt) t)
    {summaries : List (PartitionSummary Digest)} (hsub : ∀ s ∈ summaries, s ∈ p.selected)
    (hsorted : (summaries.map (·.month)).Pairwise (· < ·)) {out : List Candle}
    (hout : ∀ o ∈ out, ∀ s ∈ summaries, monthOf o.openTime < s.month) :
    iterPartitions store t p.manifest r r (summaries.map (·.month)) out =
      .ok (out ++ rangeCandles st r (summaries.map (·.month))) := by
  induction summaries generalizing out with
  | nil => simp [iterPartitions, rangeCandles]
  | cons s summaries ih =>
    have hmem := hd.mem_partitions (hsub s List.mem_cons_self)
    obtain ⟨rows, hfile, hrows, hdigest⟩ := hd.rows s hmem
    obtain ⟨hs, hrest⟩ := List.pairwise_cons.mp hsorted
    have hread : readSnapshotPartition p.manifest.series t s.month = .ok rows := by
      unfold readSnapshotPartition
      rw [ht.candles s.month (List.mem_map_of_mem (hsub s List.mem_cons_self)), hfile]
      exact readRows_eq_ok.mpr ⟨rfl, hrows⟩
    have hfind : p.manifest.partitions.find? (fun x => x.month == s.month) = some s := by
      cases hfound : p.manifest.partitions.find? fun x => x.month == s.month with
      | none =>
        have hnot := List.find?_eq_none.mp hfound s hmem
        simp at hnot
      | some x =>
        have hx : x.month = s.month := by simpa using List.find?_some hfound
        rw [List.inj_on_of_nodup_map (hd.months.imp fun h => h.ne)
          (List.mem_of_find?_eq_some hfound) hmem hx]
    have hiter : iterRows r r rows out =
        .ok (out ++ rows.filter fun c => r.contains c.openTime, false) := by
      refine iterRows_eq (fun c hc => isClosed_of_validate (hrows.each c hc).2.1) hrows.sorted ?_
      intro o ho c hc
      have hmonth := hout o ho s List.mem_cons_self
      rw [← (hrows.each c hc).2.2] at hmonth
      exact lt_of_not_ge fun hle => absurd (monthOf_mono hle) (not_le.mpr hmonth)
    have hnext : ∀ o ∈ out ++ rows.filter (fun c => r.contains c.openTime), ∀ s' ∈ summaries,
        monthOf o.openTime < s'.month := by
      intro o ho s' hs'
      rcases List.mem_append.mp ho with ho | ho
      · exact hout o ho s' (List.mem_cons_of_mem s hs')
      · rw [(hrows.each o (List.mem_filter.mp ho).1).2.2]
        exact hs _ (List.mem_map_of_mem hs')
    rw [List.map_cons]
    unfold iterPartitions
    rw [hread, ok_bind, hfind]
    simp only [Option.any_some, hdigest, decide_true, FailureKind.unless, if_true, ok_bind, hiter,
      Bool.false_eq_true, if_false]
    rw [ih (fun x hx => hsub x (List.mem_cons_of_mem s hx)) hrest hnext, List.append_assoc]
    congr 2
    simp [rangeCandles, PartitionFiles.rowsAt, hfile]

/-- **What the reader yields** of a snapshot that the directory holds. -/
theorem iterCandles_eq {createdAt : String} {t : SnapshotTree Digest}
    (hd : Described store identify st r p) (ht : HoldsSnapshot st (p.snapshot r createdAt) t) :
    iterCandles store t (p.snapshot r createdAt) p.manifest r =
      .ok (rangeCandles st r (p.selected.map (·.month))) := by
  have hsorted : (p.selected.map (·.month)).Pairwise (· < ·) := by
    rw [hd.selected]
    exact hd.months.sublist (List.filter_sublist.map _)
  have hnone : ∀ o ∈ ([] : List Candle), ∀ s ∈ p.selected, monthOf o.openTime < s.month :=
    fun o ho => absurd ho List.not_mem_nil
  have hiter := iterPartitions_eq hd ht (fun s hs => hs) hsorted hnone
  simp only [iterCandles, Prepared.snapshot, le_refl, and_self, decide_true, FailureKind.unless,
    if_true, ok_bind]
  rw [hiter, List.nil_append]

/-- The reader yields something exactly when a derived candle opens in the range. -/
theorem rangeCandles_ne_nil_iff (hd : Described store identify st r p) :
    rangeCandles st r (p.selected.map (·.month)) ≠ [] ↔
      ∃ month, ∃ c ∈ st.partitions.rowsAt month, r.contains c.openTime = true := by
  rw [← List.length_pos_iff, List.length_pos_iff_exists_mem]
  simp only [rangeCandles, List.mem_flatMap, List.mem_filter]
  constructor
  · rintro ⟨c, month, -, hc, hin⟩
    exact ⟨month, c, hc, hin⟩
  · rintro ⟨month, c, hc, hin⟩
    refine ⟨c, month, ?_, hc, hin⟩
    unfold PartitionFiles.rowsAt PartitionFiles.file at hc
    cases hfile : st.partitions.find? fun f => f.1 == month with
    | none => simp [hfile] at hc
    | some f =>
      obtain ⟨s, hs, hmonth⟩ := hd.listed f (List.mem_of_find?_eq_some hfile)
      have hf : f.1 = month := by simpa using List.find?_some hfile
      obtain ⟨rows, hrows, hpartition, -⟩ := hd.rows s hs
      have hrow : c ∈ rows := by
        rw [hmonth, hf, PartitionFiles.file, hfile] at hrows
        rw [hfile] at hc
        simpa using (Option.some_inj.mp hrows) ▸ hc
      have hopens := (hpartition.each c hrow).2.2
      refine List.mem_map.mpr ⟨s, ?_, hmonth.trans hf⟩
      rw [hd.selected]
      refine List.mem_filter.mpr ⟨hs, ?_⟩
      have hfrom := monthStart_monthOf_le c.openTime
      have hto := lt_monthStart_monthOf c.openTime
      simp only [DataRange.contains, Bool.and_eq_true, decide_eq_true_eq] at hin
      simp only [PartitionSummary.intersects, Bool.and_eq_true, decide_eq_true_eq, ← hopens]
      exact ⟨hfrom.trans_lt hin.2, hin.1.trans_lt hto⟩

/-- A snapshot that the directory holds opens. -/
theorem openSnapshot_eq {createdAt : String} {t : SnapshotTree Digest}
    (hd : Described store identify st r p) (ht : HoldsSnapshot st (p.snapshot r createdAt) t) :
    openSnapshot identify t p.snapshotId = .ok (p.snapshot r createdAt, p.manifest) := by
  simp only [openSnapshot, loadSnapshot, ht.metadata, loadManifestCopy, ht.manifest, hd.manifest,
    Option.map_some, ok_bind, Prepared.snapshot, beq_self_eq_true, FailureKind.unless, if_true]
  have hcontract := hd.contract createdAt
  simp only [Prepared.snapshot] at hcontract
  rw [hcontract]
  rfl

/-- **What becomes of a published snapshot**: it is found again when some candle opens in its range,
and refused as incomplete otherwise. -/
theorem findExisting_eq {createdAt : String} {t : SnapshotTree Digest}
    (hd : Described store identify st r p) (ht : HoldsSnapshot st (p.snapshot r createdAt) t) :
    findExisting store identify p r t =
      if rangeCandles st r (p.selected.map (·.month)) = [] then
        FailureKind.marketDataInconsistency.raiseWith "O snapshot idempotente está incompleto."
      else .ok (p.snapshot r createdAt) := by
  have hload : loadSnapshot t = .ok (p.snapshot r createdAt) := by
    rw [loadSnapshot, ht.metadata]
  have hverify : verifyExisting store identify t (p.snapshot r createdAt) =
      FailureKind.marketDataInconsistency.unless
        (!(rangeCandles st r (p.selected.map (·.month))).isEmpty)
        "O snapshot idempotente está incompleto." := by
    unfold verifyExisting
    rw [show (p.snapshot r createdAt).snapshotId = p.snapshotId from rfl, openSnapshot_eq hd ht,
      ok_bind]
    dsimp only
    rw [show (p.snapshot r createdAt).dataRange = r from rfl, iterCandles_eq hd ht, ok_bind]
  simp only [findExisting, hload, ok_bind, hverify]
  by_cases hnone : rangeCandles st r (p.selected.map (·.month)) = []
  · simp [Prepared.snapshot, FailureKind.unless, FailureKind.raiseWith, hnone, bind, Except.bind]
  · simp [Prepared.snapshot, FailureKind.unless, hnone, bind, Except.bind, pure, Except.pure]

end Snapshots
end MarketData
end DryTrade
