import DryTrade.MarketData.Incremental
import DryTrade.MarketData.StoreFiles

/-!
# Upserts are set union

A batch goes in exactly when its candles can be stored, belong to one series, and agree with one
another and with the stored ones on every key they share.  What is stored afterwards is the union,
every candle in the partition of its month, so the order and the repetition of batches do not
matter.

## Main results

* `planUpsert_eq_ok_iff`, `planUpsert_upserted` — when a batch is planned, and what the plan does.
* `upserts_union` — **a run of batches stores the union**, counts every candle once and plans the
  boundaries a rescan finds.
* `upsert_rejected_iff` — **exactly the conflicting batches are rejected**.
* `upserts_confluent` — **batches may come in any order and any number of times**.
-/

namespace DryTrade
namespace MarketData

open PartitionFiles

/-! ### Loops -/

/-- A loop whose turns return or fail whatever came before returns when each of them does. -/
theorem exists_foldlM_iff {ε α β : Type} {f : β → α → Except ε β} {P : α → Prop} {l : List α}
    (hf : ∀ a ∈ l, ∀ s, (∃ s', f s a = .ok s') ↔ P a) (s : β) :
    (∃ s', l.foldlM f s = .ok s') ↔ ∀ a ∈ l, P a := by
  induction l generalizing s with
  | nil => exact iff_of_true ⟨s, rfl⟩ fun a ha => (List.not_mem_nil ha).elim
  | cons a l ih =>
    have hrest := ih fun b hb => hf b (List.mem_cons_of_mem a hb)
    simp only [List.foldlM_cons, bind_eq_ok, List.forall_mem_cons]
    constructor
    · rintro ⟨s', s₁, hstep, h⟩
      exact ⟨(hf a List.mem_cons_self s).mp ⟨s₁, hstep⟩, (hrest s₁).mp ⟨s', h⟩⟩
    · rintro ⟨ha, hl⟩
      obtain ⟨s₁, hstep⟩ := (hf a List.mem_cons_self s).mpr ha
      obtain ⟨s', h⟩ := (hrest s₁).mpr hl
      exact ⟨s', s₁, hstep, h⟩

namespace RawStore

variable {identity : SeriesIdentity} {files : PartitionFiles}

/-- The candle can be stored: it is closed, and its values fit the table. -/
def Storable (c : Candle) : Prop := validateCandleSerialization c true = .ok ()

/-- A batch is collected when its candles can be stored, are of the series and do not conflict. -/
theorem foldlM_collect {candles : List Candle} {s s' : KeyedRows Candle} :
    candles.foldlM (collect identity) s = .ok s' ↔
      (∀ c ∈ candles, Storable c ∧ c.identity = identity) ∧
        candles.foldlM (KeyedRows.insert Candle.key batchConflict) s = .ok s' := by
  induction candles generalizing s with
  | nil => simp
  | cons c candles ih =>
    simp only [List.foldlM_cons, bind_eq_ok, ih, collect, FailureKind.unless_eq_ok, beq_iff_eq,
      exists_const, List.forall_mem_cons, Storable]
    constructor
    · rintro ⟨s₁, ⟨_, hser, hid, hstep⟩, hall, h⟩
      exact ⟨⟨⟨hser, hid⟩, hall⟩, s₁, hstep, h⟩
    · rintro ⟨⟨⟨hser, hid⟩, hall⟩, s₁, hstep, h⟩
      exact ⟨s₁, ⟨(), hser, hid, hstep⟩, hall, h⟩

/-- Rows that do not share a key are kept. -/
theorem foldlM_keep {message : String} {acc rows : List Candle}
    (h : KeyedRows.Distinct Candle.key (acc ++ rows)) :
    rows.foldlM (keep message) acc = .ok (acc ++ rows) := by
  induction rows generalizing acc with
  | nil => rw [List.append_nil]; rfl
  | cons c rows ih =>
    have hnew : (acc.all fun r => r.key != c.key) = true := by
      rw [List.all_eq_true]
      intro r hr
      have hne := (List.pairwise_append.mp h).2.2 r hr c List.mem_cons_self
      simpa using hne
    have hstep : keep message acc c = .ok (acc ++ [c]) := by
      unfold keep FailureKind.unless
      rw [hnew]
      rfl
    rw [List.foldlM_cons, hstep, ok_bind, ih (by rwa [← List.append_cons]), ← List.append_cons]

/-! ### Months -/

theorem groupedMonths_nodup (candles : List Candle) : (groupedMonths candles).Nodup :=
  (List.perm_insertionSort _ _).nodup_iff.mpr (List.nodup_dedup _)

theorem mem_groupedMonths {candles : List Candle} {m : ℤ} :
    m ∈ groupedMonths candles ↔ ∃ c ∈ candles, monthOf c.openTime = m := by
  unfold groupedMonths
  rw [(List.perm_insertionSort _ _).mem_iff, List.mem_dedup, List.mem_map]

theorem mem_inMonth {candles : List Candle} {m : ℤ} {c : Candle} :
    c ∈ inMonth m candles ↔ c ∈ candles ∧ monthOf c.openTime = m := by
  unfold inMonth
  rw [List.mem_filter, beq_iff_eq]

/-- The candles of each month are all of the candles. -/
theorem flatMap_inMonth_perm {candles : List Candle} {months : List ℤ} (hnodup : months.Nodup)
    (hmonths : ∀ c ∈ candles, monthOf c.openTime ∈ months) (hc : candles.Nodup)
    {f : List Candle → List Candle} (hf : ∀ l, (f l).Perm l) :
    (months.flatMap fun m => f (inMonth m candles)).Perm candles := by
  have hmem : ∀ {m c}, c ∈ f (inMonth m candles) ↔ c ∈ candles ∧ monthOf c.openTime = m :=
    fun {m c} => (hf _).mem_iff.trans mem_inMonth
  refine (List.perm_ext_iff_of_nodup
    (List.nodup_flatMap.mpr ⟨fun m _ => ?_, ?_⟩) hc).mpr fun c => ?_
  · exact (hf _).nodup_iff.mpr (hc.filter _)
  · refine hnodup.imp fun hne c hc hc' => hne ?_
    exact (hmem.mp hc).2.symm.trans (hmem.mp hc').2
  · rw [List.mem_flatMap]
    constructor
    · rintro ⟨m, -, hmc⟩
      exact (hmem.mp hmc).1
    · exact fun hmc => ⟨_, hmonths c hmc, hmem.mpr ⟨hmc, rfl⟩⟩

/-! ### One month -/

/-- A month is planned when its candles merge with its partition. -/
theorem planMonth_eq_ok_iff (h : files.Valid identity) {unique : List Candle}
    {planned out : Planning} {month : ℤ} :
    planMonth identity files unique planned month = .ok out ↔
      ∃ merged, (inMonth month unique).foldlM (KeyedRows.insert Candle.key storedConflict)
          ⟨files.rowsAt month, 0, planned.duplicateCount⟩ = .ok merged ∧
        out = if merged.added = 0 then { planned with duplicateCount := merged.duplicates } else {
          partitions := planned.partitions ++
            [⟨month, (files.file month).isSome, sortByOpenTime merged.rows⟩]
          storedCount := planned.storedCount + merged.added
          duplicateCount := merged.duplicates } := by
  have hkeep : (files.rowsAt month).foldlM
      (keep "A partição existente contém uma chave duplicada.") [] = .ok (files.rowsAt month) :=
    foldlM_keep (distinct_of_sorted (h.rowsAt month).sorted)
  unfold planMonth
  rw [h.readFile, ok_bind, hkeep, ok_bind, bind_eq_ok]
  refine exists_congr fun merged => and_congr_right fun _ => ?_
  split_ifs <;> exact ⟨fun heq => (Except.ok.inj heq).symm, fun heq => heq ▸ rfl⟩

/-- The candles of a month merge with its partition exactly when they agree on the keys. -/
theorem exists_planMonth_iff (h : files.Valid identity) {unique : List Candle} {planned : Planning}
    {month : ℤ} : (∃ out, planMonth identity files unique planned month = .ok out) ↔
      KeyedRows.Agree Candle.key (files.rowsAt month ++ inMonth month unique) := by
  rw [← KeyedRows.insertAll_eq_ok_iff storedConflict _
    (s := ⟨files.rowsAt month, 0, planned.duplicateCount⟩)
    (distinct_of_sorted (h.rowsAt month).sorted)]
  simp only [planMonth_eq_ok_iff h]
  constructor
  · rintro ⟨_, merged, hmerged, -⟩
    exact ⟨merged, hmerged⟩
  · rintro ⟨merged, hmerged⟩
    exact ⟨_, merged, hmerged, rfl⟩

/-- The months are planned exactly when each of them merges. -/
theorem exists_foldlM_planMonth_iff (h : files.Valid identity) {unique : List Candle}
    {months : List ℤ} (planned : Planning) :
    (∃ out, months.foldlM (planMonth identity files unique) planned = .ok out) ↔
      ∀ m ∈ months, KeyedRows.Agree Candle.key (files.rowsAt m ++ inMonth m unique) :=
  exists_foldlM_iff (P := fun m => KeyedRows.Agree Candle.key (files.rowsAt m ++ inMonth m unique))
    (fun _ _ _ => exists_planMonth_iff h) planned

/-- What planning the months `months` would promote: the candles of these months go in. -/
structure PlannedMonths (identity : SeriesIdentity) (files : PartitionFiles) (unique : List Candle)
    (months : List ℤ) (before planned : Planning) : Prop where
  valid : (promote files planned.partitions).Valid identity
  /-- Other months are not touched. -/
  file : ∀ m, m ∉ months → (promote files planned.partitions).file m = files.file m
  held : ∀ c, c ∈ (promote files planned.partitions).held ↔
    c ∈ files.held ∨ c ∈ unique ∧ monthOf c.openTime ∈ months
  length : (promote files planned.partitions).held.length = files.held.length + planned.storedCount
  counts : planned.storedCount + planned.duplicateCount =
    before.duplicateCount + (months.flatMap fun m => inMonth m unique).length
  storable : ∀ p ∈ planned.partitions, ∀ c ∈ p.candles, Storable c

/-- Planning one more month keeps what was planned. -/
theorem PlannedMonths.planMonth {unique : List Candle} {months : List ℤ} {month : ℤ}
    {before planned out : Planning} (hfiles : files.Valid identity)
    (hunique : ∀ c ∈ unique, Storable c ∧ c.identity = identity)
    (h : PlannedMonths identity files unique months before planned) (hmonth : month ∉ months)
    (hout : RawStore.planMonth identity files unique planned month = .ok out) :
    PlannedMonths identity files unique (months ++ [month]) before out := by
  obtain ⟨merged, hmerged, rfl⟩ := (planMonth_eq_ok_iff hfiles).mp hout
  have hrows := hfiles.rowsAt month
  have hdistinct : KeyedRows.Distinct Candle.key (files.rowsAt month) :=
    distinct_of_sorted hrows.sorted
  have hins := KeyedRows.insertAll_inserted (s := ⟨files.rowsAt month, 0, planned.duplicateCount⟩)
    hdistinct hmerged
  have hcounts := hins.counts
  have hlength := hins.length
  dsimp only at hcounts hlength
  have hrowsAt : (promote files planned.partitions).rowsAt month = files.rowsAt month := by
    unfold PartitionFiles.rowsAt
    rw [h.file month hmonth]
  have hheld : ∀ c, monthOf c.openTime = month →
      (c ∈ (promote files planned.partitions).held ↔ c ∈ files.rowsAt month) := by
    rintro c rfl
    rw [h.valid.mem_held, hrowsAt]
  have hflat : ((months ++ [month]).flatMap fun m => inMonth m unique).length =
      (months.flatMap fun m => inMonth m unique).length + (inMonth month unique).length := by
    simp [List.flatMap_append]
  have hbefore := h.counts
  split_ifs with hadded
  · -- every candle of the month was stored already
    have hall := (hins.added_eq_iff hdistinct).mp hadded
    refine ⟨h.valid, fun m hm => h.file m fun hm' => hm (List.mem_append_left _ hm'), fun c => ?_,
      h.length, ?_, h.storable⟩
    · rw [h.held, List.mem_append, List.mem_singleton]
      constructor
      · rintro (hc | ⟨hc, hm⟩)
        · exact .inl hc
        · exact .inr ⟨hc, .inl hm⟩
      · rintro (hc | ⟨hc, hm | hm⟩)
        · exact .inl hc
        · exact .inr ⟨hc, hm⟩
        · have hstored := hall c (mem_inMonth.mpr ⟨hc, hm⟩)
          rw [← hm] at hstored
          exact .inl (hfiles.mem_held.mpr hstored)
    · dsimp only
      rw [hflat]
      omega
  · have hpromote : promote files (planned.partitions ++
        [⟨month, (files.file month).isSome, sortByOpenTime merged.rows⟩]) =
        (promote files planned.partitions).replace month (sortByOpenTime merged.rows) := by
      unfold promote
      rw [List.foldl_append]
      rfl
    have heach : ∀ c ∈ merged.rows, c.identity = identity ∧ Storable c ∧
        monthOf c.openTime = month := by
      intro c hc
      rcases (hins.rows c).mp hc with hc | hc
      · exact hrows.each c hc
      · obtain ⟨hc, hm⟩ := mem_inMonth.mp hc
        exact ⟨(hunique c hc).2, (hunique c hc).1, hm⟩
    have hnew : PartitionRows identity month (sortByOpenTime merged.rows) :=
      ⟨fun c hc => heach c (mem_sortByOpenTime.mp hc),
        sortByOpenTime_sorted (openTime_distinct (fun c hc => (heach c hc).1) hins.distinct)⟩
    have hvalid := h.valid.replace hnew
    have hheldlen := h.valid.length_held_replace month (sortByOpenTime merged.rows)
    have hsortlen : (sortByOpenTime merged.rows).length = merged.rows.length :=
      List.length_insertionSort _ _
    have hlen := h.length
    refine ⟨hpromote ▸ hvalid, fun m hm => ?_, fun c => ?_, ?_, ?_, ?_⟩
    · dsimp only
      rw [List.mem_append, List.mem_singleton, not_or] at hm
      rw [hpromote, file_replace, if_neg hm.2, h.file m hm.1]
    · dsimp only
      rw [hpromote, hvalid.mem_held, rowsAt_replace, List.mem_append, List.mem_singleton]
      split_ifs with hm
      · have hold := hheld c hm
        rw [h.held, hm] at hold
        rw [mem_sortByOpenTime, hins.rows, mem_inMonth]
        dsimp only
        rw [← hold, hm]
        simp only [hmonth, and_false, or_false, and_true, or_true]
      · rw [← h.valid.mem_held, h.held]
        simp only [hm, or_false]
    · dsimp only
      rw [hpromote]
      rw [hrowsAt] at hheldlen
      omega
    · dsimp only
      rw [hflat]
      omega
    · intro p hp c hc
      rcases List.mem_append.mp hp with hp | hp
      · exact h.storable p hp c hc
      · rw [List.mem_singleton.mp hp] at hc
        exact (heach c (mem_sortByOpenTime.mp hc)).2.1

/-! ### All months -/

/-- Planning months one after another keeps what was planned. -/
theorem PlannedMonths.foldlM {unique : List Candle} {done months : List ℤ}
    {before planned out : Planning} (hfiles : files.Valid identity)
    (hunique : ∀ c ∈ unique, Storable c ∧ c.identity = identity)
    (h : PlannedMonths identity files unique done before planned) (hnodup : (done ++ months).Nodup)
    (hout : months.foldlM (RawStore.planMonth identity files unique) planned = .ok out) :
    PlannedMonths identity files unique (done ++ months) before out := by
  induction months generalizing done planned with
  | nil =>
    cases hout
    rwa [List.append_nil]
  | cons month months ih =>
    rw [List.foldlM_cons, bind_eq_ok] at hout
    obtain ⟨next, hstep, hrest⟩ := hout
    rw [List.append_cons] at hnodup ⊢
    have hmonth : month ∉ done := fun hm =>
      (List.nodup_append.mp (List.nodup_append.mp hnodup).1).2.2 month hm month (by simp) rfl
    exact ih (h.planMonth hfiles hunique hmonth hstep) hnodup hrest

/-- Nothing is planned yet. -/
theorem PlannedMonths.nil (hfiles : files.Valid identity) (unique : List Candle) (duplicates : ℕ) :
    PlannedMonths identity files unique [] ⟨[], 0, duplicates⟩ ⟨[], 0, duplicates⟩ where
  valid := hfiles
  file _ _ := rfl
  held c := by simp [promote]
  length := rfl
  counts := Nat.zero_add _
  storable p hp := (List.not_mem_nil hp).elim

/-! ### The whole dataset -/

/-- A key is assigned where there is no other row under it. -/
theorem assignKey_eq {rows : List Candle} {c : Candle}
    (h : ∀ r ∈ rows, r.key = c.key → r = c) :
    assignKey rows c = if c ∈ rows then rows else rows ++ [c] := by
  unfold assignKey
  have hany : (rows.any fun r => r.key == c.key) = true ↔ c ∈ rows := by
    rw [List.any_eq_true]
    constructor
    · rintro ⟨r, hr, hkey⟩
      exact h r hr (beq_iff_eq.mp hkey) ▸ hr
    · exact fun hc => ⟨c, hc, beq_self_eq_true _⟩
  by_cases hc : c ∈ rows
  · rw [if_pos (hany.mpr hc), if_pos hc]
    refine (List.map_congr_left fun r hr => ?_).trans (List.map_id rows)
    split_ifs with hkey
    · exact (h r hr (beq_iff_eq.mp hkey)).symm
    · rfl
  · rw [if_neg fun hyes => hc (hany.mp hyes), if_neg hc]

/-- Assigning rows that agree with those that are there unites them. -/
theorem foldl_assignKey {rows incoming : List Candle} (hrows : KeyedRows.Distinct Candle.key rows)
    (h : KeyedRows.Agree Candle.key (rows ++ incoming)) :
    KeyedRows.Distinct Candle.key (incoming.foldl assignKey rows) ∧
      ∀ c, c ∈ incoming.foldl assignKey rows ↔ c ∈ rows ∨ c ∈ incoming := by
  induction incoming generalizing rows with
  | nil => exact ⟨hrows, fun c => by simp⟩
  | cons x incoming ih =>
    have hx : ∀ r ∈ rows, r.key = x.key → r = x := fun r hr hkey =>
      h r (List.mem_append_left _ hr) x (by simp) hkey
    have hmem : ∀ c, c ∈ assignKey rows x ↔ c ∈ rows ∨ c = x := by
      intro c
      rw [assignKey_eq hx]
      split_ifs with hin
      · exact ⟨Or.inl, fun hc => hc.elim id fun heq => heq ▸ hin⟩
      · simp
    have hdistinct : KeyedRows.Distinct Candle.key (assignKey rows x) := by
      rw [assignKey_eq hx]
      split_ifs with hin
      · exact hrows
      · refine List.pairwise_append.mpr ⟨hrows, List.pairwise_singleton _ _, ?_⟩
        intro r hr y hy hkey
        rw [List.mem_singleton.mp hy] at hkey
        exact hin (hx r hr hkey ▸ hr)
    have hagree : KeyedRows.Agree Candle.key (assignKey rows x ++ incoming) :=
      h.mono fun z hz => by
        rw [List.mem_append, hmem] at hz
        rw [List.mem_append, List.mem_cons, ← or_assoc]
        exact hz
    obtain ⟨hd, hm⟩ := ih hdistinct hagree
    refine ⟨hd, fun c => ?_⟩
    rw [List.foldl_cons, hm, hmem, List.mem_cons, or_assoc]

/-- The rows of the files are read one file after another. -/
theorem foldlM_readFile (h : files.Valid identity) {message : String} {months : List ℤ}
    {acc : List Candle} (hd : KeyedRows.Distinct Candle.key (acc ++ months.flatMap files.rowsAt)) :
    months.foldlM (fun rows month => do
      let read ← files.readFile identity month
      read.foldlM (keep message) rows) acc = .ok (acc ++ months.flatMap files.rowsAt) := by
  induction months generalizing acc with
  | nil => rw [List.flatMap_nil, List.append_nil]; rfl
  | cons month months ih =>
    rw [List.flatMap_cons, ← List.append_assoc] at hd ⊢
    rw [List.foldlM_cons, h.readFile, ok_bind,
      foldlM_keep (List.pairwise_append.mp hd).1, ok_bind, ih hd]

/-- **The planned boundaries are those of the union.** -/
theorem futureDatasetIntegrity_eq (h : files.Valid identity) (incoming : List Candle)
    {all : List Candle} (hagree : KeyedRows.Agree Candle.key (files.held ++ incoming))
    (hnodup : all.Nodup)
    (hall : ∀ c, c ∈ all ↔ c ∈ files.held ∨ c ∈ incoming) :
    futureDatasetIntegrity identity files incoming =
      .ok (all.foldl RawPartitionIntegritySnapshot.count .empty) := by
  have hperm := h.flatMap_rowsAt files.sortedMonths_perm
  have hstored : KeyedRows.Distinct Candle.key (files.sortedMonths.flatMap files.rowsAt) :=
    h.distinct.perm hperm.symm fun hne => hne.symm
  have hagree' : KeyedRows.Agree Candle.key (files.sortedMonths.flatMap files.rowsAt ++ incoming) :=
    hagree.mono fun z hz => by rwa [List.mem_append, hperm.mem_iff, ← List.mem_append] at hz
  obtain ⟨hdistinct, hmem⟩ := foldl_assignKey hstored hagree'
  unfold futureDatasetIntegrity
  rw [foldlM_readFile h (by rwa [List.nil_append]), ok_bind, List.nil_append]
  refine congrArg Except.ok (RawPartitionIntegritySnapshot.foldl_count_perm ?_ _)
  refine (flatMap_inMonth_perm (f := sortByOpenTime) (groupedMonths_nodup _)
    (fun c hc => mem_groupedMonths.mpr ⟨c, hc, rfl⟩) hdistinct.nodup
    fun l => List.perm_insertionSort _ l).trans ?_
  refine (List.perm_ext_iff_of_nodup hdistinct.nodup hnodup).mpr fun c => ?_
  rw [hmem, hall, hperm.mem_iff]

/-! ### One batch -/

/-- What the plan of a batch does. -/
structure Upserted (identity : SeriesIdentity) (files : PartitionFiles) (batch : List Candle)
    (plan : ParquetUpsertPlan) : Prop where
  valid : (promote files plan.partitions).Valid identity
  held : ∀ c, c ∈ (promote files plan.partitions).held ↔ c ∈ files.held ∨ c ∈ batch
  length : (promote files plan.partitions).held.length = files.held.length + plan.storedCount
  counts : plan.storedCount + plan.duplicateCount = batch.length
  boundaries : (⟨plan.firstOpenTime, plan.lastOpenTime, plan.candleCount⟩ :
    RawPartitionIntegritySnapshot) =
      (promote files plan.partitions).held.foldl RawPartitionIntegritySnapshot.count .empty
  file : ∀ m, (∀ c ∈ batch, monthOf c.openTime ≠ m) →
    (promote files plan.partitions).file m = files.file m
  prepared : prepareFiles plan = .ok ()

/-- Candles of the series agree with the stored ones when those of each month do. -/
theorem agree_iff_months (h : files.Valid identity) {unique : List Candle}
    (hunique : ∀ c ∈ unique, c.identity = identity) :
    (∀ m ∈ groupedMonths unique,
      KeyedRows.Agree Candle.key (files.rowsAt m ++ inMonth m unique)) ↔
    KeyedRows.Agree Candle.key (files.held ++ unique) := by
  have hid : ∀ c ∈ files.held ++ unique, c.identity = identity := fun c hc =>
    (List.mem_append.mp hc).elim (fun hc => (h.each hc).1) (hunique c)
  have hmem : ∀ c m, monthOf c.openTime = m →
      (c ∈ files.rowsAt m ++ inMonth m unique ↔ c ∈ files.held ++ unique) := by
    rintro c _ rfl
    rw [List.mem_append, List.mem_append, h.mem_held, mem_inMonth, and_iff_left rfl]
  constructor
  · intro hall c hc c' hc' hkey
    have hopen := (Candle.key_eq_iff ((hid c hc).trans (hid c' hc').symm)).mp hkey
    have hmonth : monthOf c'.openTime = monthOf c.openTime := congrArg monthOf hopen.symm
    by_cases hnew : monthOf c.openTime ∈ groupedMonths unique
    · exact hall _ hnew c ((hmem c _ rfl).mpr hc) c' ((hmem c' _ hmonth).mpr hc') hkey
    · -- neither of them is new
      have hold : ∀ x, monthOf x.openTime = monthOf c.openTime → x ∈ files.held ++ unique →
          x ∈ files.held := fun x hx hin => (List.mem_append.mp hin).resolve_right fun hu =>
        hnew (mem_groupedMonths.mpr ⟨x, hu, hx⟩)
      exact h.distinct.agree c (hold c rfl hc) c' (hold c' hmonth hc') hkey
  · intro hall m _
    refine hall.mono fun c hc => (hmem c m ?_).mp hc
    rcases List.mem_append.mp hc with hc | hc
    · exact ((h.rowsAt m).each c hc).2.2
    · exact (mem_inMonth.mp hc).2

/-- **A batch is planned exactly when it can be stored and agrees with what is.** -/
theorem planUpsert_eq_ok_iff (h : files.Valid identity) {batch : List Candle} :
    (∃ plan, planUpsert identity files batch = .ok plan) ↔
      (∀ c ∈ batch, Storable c ∧ c.identity = identity) ∧
        KeyedRows.Agree Candle.key (files.held ++ batch) := by
  have hnil : KeyedRows.Distinct Candle.key (⟨[], 0, 0⟩ : KeyedRows Candle).rows := .nil
  simp only [planUpsert, bind_eq_ok, foldlM_collect]
  constructor
  · rintro ⟨_, unique, ⟨hall, hunique⟩, planned, hplanned, -⟩
    have hins := KeyedRows.insertAll_inserted hnil hunique
    have hmem : ∀ c, c ∈ unique.rows ↔ c ∈ batch := fun c => by simpa using hins.rows c
    refine ⟨hall, ((agree_iff_months h fun c hc => (hall c ((hmem c).mp hc)).2).mp
      fun m hm => ?_).mono fun c hc => ?_⟩
    · exact (exists_foldlM_planMonth_iff h _).mp ⟨planned, hplanned⟩ m hm
    · rwa [List.mem_append, hmem, ← List.mem_append]
  · rintro ⟨hall, hagree⟩
    obtain ⟨unique, hunique⟩ := (KeyedRows.insertAll_eq_ok_iff batchConflict batch hnil).mpr
      (hagree.mono fun c hc => List.mem_append_right _ (by simpa using hc))
    have hins := KeyedRows.insertAll_inserted hnil hunique
    have hmem : ∀ c, c ∈ unique.rows ↔ c ∈ batch := fun c => by simpa using hins.rows c
    have hagree' : KeyedRows.Agree Candle.key (files.held ++ unique.rows) :=
      hagree.mono fun c hc => by rwa [List.mem_append, ← hmem, ← List.mem_append]
    obtain ⟨planned, hplanned⟩ := (exists_foldlM_planMonth_iff h ⟨[], 0, unique.duplicates⟩).mpr
      ((agree_iff_months h fun c hc => (hall c ((hmem c).mp hc)).2).mpr hagree')
    obtain ⟨all, hnodup, hallmem⟩ : ∃ all : List Candle, all.Nodup ∧
        ∀ c, c ∈ all ↔ c ∈ files.held ∨ c ∈ unique.rows :=
      ⟨(files.held ++ unique.rows).dedup, List.nodup_dedup _, fun c => by simp⟩
    exact ⟨_, unique, ⟨hall, hunique⟩, planned, hplanned, _,
      futureDatasetIntegrity_eq h unique.rows hagree' hnodup hallmem, rfl⟩

/-- **What the plan of a batch does.** -/
theorem planUpsert_upserted (h : files.Valid identity) {batch : List Candle}
    {plan : ParquetUpsertPlan} (hplan : planUpsert identity files batch = .ok plan) :
    Upserted identity files batch plan := by
  obtain ⟨hall, hagree⟩ := (planUpsert_eq_ok_iff h).mp ⟨plan, hplan⟩
  have hnil : KeyedRows.Distinct Candle.key (⟨[], 0, 0⟩ : KeyedRows Candle).rows := .nil
  simp only [planUpsert, bind_eq_ok, foldlM_collect, pure, Except.pure, Except.ok.injEq] at hplan
  obtain ⟨unique, ⟨-, hunique⟩, planned, hplanned, future, hfuture, rfl⟩ := hplan
  have hins := KeyedRows.insertAll_inserted hnil hunique
  have hmem : ∀ c, c ∈ unique.rows ↔ c ∈ batch := fun c => by simpa using hins.rows c
  have hmonths := (PlannedMonths.nil h unique.rows unique.duplicates).foldlM h
    (fun c hc => hall c ((hmem c).mp hc)) (by simpa using groupedMonths_nodup unique.rows) hplanned
  rw [List.nil_append] at hmonths
  have hheld : ∀ c, c ∈ (promote files planned.partitions).held ↔ c ∈ files.held ∨ c ∈ batch := by
    intro c
    rw [hmonths.held, hmem]
    refine or_congr_right (and_iff_left_of_imp fun hc => ?_)
    exact mem_groupedMonths.mpr ⟨c, (hmem c).mpr hc, rfl⟩
  have hflat : ((groupedMonths unique.rows).flatMap fun m => inMonth m unique.rows).length =
      unique.rows.length :=
    (flatMap_inMonth_perm (f := id) (groupedMonths_nodup _)
      (fun c hc => mem_groupedMonths.mpr ⟨c, hc, rfl⟩) hins.distinct.nodup
      fun l => List.Perm.refl l).length_eq
  have hcollected := hins.counts
  have hlength := hins.length
  have hcounts := hmonths.counts
  dsimp only [List.length_nil] at hcollected hlength hcounts
  refine ⟨hmonths.valid, hheld, hmonths.length, ?_, ?_, fun m hm => ?_, ?_⟩
  · dsimp only
    omega
  · have heq := futureDatasetIntegrity_eq h unique.rows
      (hagree.mono fun c hc => by rwa [List.mem_append, hmem, ← List.mem_append] at hc)
      hmonths.valid.distinct.nodup fun c => by rw [hheld, hmem]
    exact Except.ok.inj (hfuture.symm.trans heq)
  · refine hmonths.file m fun hmem' => ?_
    obtain ⟨c, hc, hcm⟩ := mem_groupedMonths.mp hmem'
    exact hm c ((hmem c).mp hc) hcm
  · exact forM_eq_ok.mpr fun p hp => forM_eq_ok.mpr fun c hc => hmonths.storable p hp c hc

/-! ### The store -/

/-- The files of every series are well formed. -/
def Valid (store : RawStore) : Prop := ∀ identity, (store identity).Valid identity

/-- A batch that may go in. -/
structure Acceptable (store : RawStore) (batch : List Candle) : Prop where
  storable : ∀ c ∈ batch, Storable c
  series : ∀ c ∈ batch, ∀ c' ∈ batch, c'.identity = c.identity
  agree : ∀ c ∈ batch, ∀ c', c' ∈ batch ∨ c' ∈ (store c.identity).held → c'.key = c.key → c' = c

/-- What a batch that went in left. -/
structure Stored (store : RawStore) (batch : List Candle) (store' : RawStore)
    (plan : ParquetUpsertPlan) : Prop where
  valid : store'.Valid
  held : ∀ identity c, c ∈ (store' identity).held ↔
    c ∈ (store identity).held ∨ c ∈ batch ∧ c.identity = identity
  counts : plan.storedCount + plan.duplicateCount = batch.length
  length : ∀ c ∈ batch, (store' c.identity).held.length =
    (store c.identity).held.length + plan.storedCount
  boundaries : ∀ c ∈ batch, (store' c.identity).firstLastCount c.identity =
    .ok ⟨plan.firstOpenTime, plan.lastOpenTime, plan.candleCount⟩
  file : ∀ identity m, (∀ c ∈ batch, c.identity = identity → monthOf c.openTime ≠ m) →
    (store' identity).file m = (store identity).file m

variable {store : RawStore} {batch : List Candle} {batches : List (List Candle)}

/-- A batch of a series agrees with its files exactly when no candle of it conflicts. -/
theorem acceptable_cons_iff (hs : store.Valid) {c : Candle} :
    Acceptable store (c :: batch) ↔
      (∀ x ∈ c :: batch, Storable x ∧ x.identity = c.identity) ∧
        KeyedRows.Agree Candle.key ((store c.identity).held ++ c :: batch) := by
  constructor
  · intro h
    have hid : ∀ x ∈ c :: batch, x.identity = c.identity := h.series c List.mem_cons_self
    refine ⟨fun x hx => ⟨h.storable x hx, hid x hx⟩, fun x hx y hy hkey => ?_⟩
    rcases List.mem_append.mp hx with hx | hx
    · rcases List.mem_append.mp hy with hy | hy
      · exact (hs c.identity).distinct.agree x hx y hy hkey
      · exact h.agree y hy x (.inr (hid y hy ▸ hx)) hkey
    · refine (h.agree x hx y ?_ hkey.symm).symm
      rw [hid x hx]
      exact (List.mem_append.mp hy).symm
  · rintro ⟨hall, hagree⟩
    refine ⟨fun x hx => (hall x hx).1, fun x hx y hy => (hall y hy).2.trans (hall x hx).2.symm,
      fun x hx y hy hkey => hagree y ?_ x (List.mem_append_right _ hx) hkey⟩
    rw [(hall x hx).2] at hy
    exact List.mem_append.mpr hy.symm

/-- **A batch goes in exactly when it is acceptable.** -/
theorem upsert_eq_ok_iff (hs : store.Valid) :
    (∃ out, store.upsert batch = .ok out) ↔ Acceptable store batch := by
  cases batch with
  | nil => exact iff_of_true ⟨_, rfl⟩ ⟨by simp, by simp, by simp⟩
  | cons c batch =>
    rw [acceptable_cons_iff hs, ← planUpsert_eq_ok_iff (hs c.identity)]
    constructor
    · rintro ⟨out, h⟩
      simp only [upsert, bind_eq_ok] at h
      obtain ⟨plan, hplan, -⟩ := h
      exact ⟨plan, hplan⟩
    · rintro ⟨plan, hplan⟩
      refine ⟨(Function.update store c.identity
        (promote (store c.identity) plan.partitions), plan), ?_⟩
      simp only [upsert, hplan, ok_bind, (planUpsert_upserted (hs c.identity) hplan).prepared]
      rfl

/-- **What a batch that went in left.** -/
theorem upsert_stored (hs : store.Valid) {store' : RawStore} {plan : ParquetUpsertPlan}
    (h : store.upsert batch = .ok (store', plan)) : Stored store batch store' plan := by
  have hacc := (upsert_eq_ok_iff hs).mp ⟨_, h⟩
  cases batch with
  | nil =>
    cases h
    exact ⟨hs, by simp, rfl, by simp, by simp, fun _ _ _ => rfl⟩
  | cons c batch =>
    simp only [upsert, bind_eq_ok, pure, Except.pure, Except.ok.injEq, Prod.mk.injEq] at h
    obtain ⟨_, hplan, _, -, rfl, rfl⟩ := h
    have hid : ∀ x ∈ c :: batch, x.identity = c.identity := hacc.series c List.mem_cons_self
    have hup := planUpsert_upserted (hs c.identity) hplan
    refine ⟨fun identity => ?_, fun identity x => ?_, hup.counts, fun x hx => ?_, fun x hx => ?_,
      fun identity m hm => ?_⟩
    · by_cases heq : identity = c.identity
      · subst heq
        rw [Function.update_self]
        exact hup.valid
      · rw [Function.update_of_ne heq]
        exact hs identity
    · by_cases heq : identity = c.identity
      · subst heq
        rw [Function.update_self, hup.held]
        exact or_congr_right (and_iff_left_of_imp (hid x)).symm
      · rw [Function.update_of_ne heq]
        refine (or_iff_left ?_).symm
        rintro ⟨hx, hxid⟩
        exact heq (hxid.symm.trans (hid x hx))
    · rw [hid x hx, Function.update_self]
      exact hup.length
    · rw [hid x hx, Function.update_self, hup.valid.firstLastCount]
      exact congrArg Except.ok hup.boundaries.symm
    · by_cases heq : identity = c.identity
      · subst heq
        rw [Function.update_self]
        exact hup.file m fun x hx => hm x hx (hid x hx)
      · rw [Function.update_of_ne heq]

/-! ### Runs -/

theorem afterAll_cons_ok {store' : RawStore} {plan : ParquetUpsertPlan}
    (h : store.upsert batch = .ok (store', plan)) : store.afterAll (batch :: batches) =
      ((store'.afterAll batches).1, batch :: (store'.afterAll batches).2) := by
  simp only [afterAll, h]

theorem afterAll_cons_error {e : Failure} (h : store.upsert batch = .error e) :
    store.afterAll (batch :: batches) = store.afterAll batches := by
  simp only [afterAll, h]

/-- What a run of batches leaves. -/
structure Ran (store : RawStore) (accepted : List (List Candle)) (store' : RawStore) : Prop where
  valid : store'.Valid
  held : ∀ identity c, c ∈ (store' identity).held ↔
    c ∈ (store identity).held ∨ (∃ b ∈ accepted, c ∈ b) ∧ c.identity = identity
  file : ∀ identity m, (∀ b ∈ accepted, ∀ c ∈ b, c.identity = identity → monthOf c.openTime ≠ m) →
    (store' identity).file m = (store identity).file m

/-- **A run of batches stores the union of the accepted ones.** -/
theorem afterAll_ran (hs : store.Valid) (batches : List (List Candle)) :
    Ran store (store.afterAll batches).2 (store.afterAll batches).1 := by
  induction batches generalizing store with
  | nil => exact ⟨hs, by simp [afterAll], fun _ _ _ => rfl⟩
  | cons batch batches ih =>
    cases h : store.upsert batch with
    | error e =>
      rw [afterAll_cons_error h]
      exact ih hs
    | ok out =>
      obtain ⟨store', plan⟩ := out
      have hstored := upsert_stored hs h
      have hrest := ih hstored.valid
      rw [afterAll_cons_ok h]
      refine ⟨hrest.valid, fun identity c => ?_, fun identity m hm => ?_⟩
      · rw [hrest.held, hstored.held, or_assoc, ← or_and_right]
        simp only [List.exists_mem_cons_iff]
      · rw [hrest.file identity m fun b hb => hm b (List.mem_cons_of_mem _ hb)]
        exact hstored.file identity m (hm batch List.mem_cons_self)

/-- **Upserts are set union.** Whatever batches are tried, the files stay well formed, the stored
candles are the initial ones and those of the accepted batches, a range returns those of them
that open in it, in order, and the next batch that is accepted counts each of its candles once
and plans the boundaries and the count that a rescan of the files finds. -/
theorem upserts_union (hs : store.Valid) (batches : List (List Candle)) :
    (store.afterAll batches).1.Valid ∧
    (∀ identity c, c ∈ ((store.afterAll batches).1 identity).held ↔
      c ∈ (store identity).held ∨
        (∃ b ∈ (store.afterAll batches).2, c ∈ b) ∧ c.identity = identity) ∧
    (∀ identity r, ∃ rows, ((store.afterAll batches).1 identity).readRange identity r = .ok rows ∧
      (rows.Pairwise fun c c' => c.openTime < c'.openTime) ∧
      ∀ c, c ∈ rows ↔ c ∈ ((store.afterAll batches).1 identity).held ∧
        r.start ≤ c.openTime ∧ c.openTime < r.stop) ∧
    ∀ next store' plan, (store.afterAll batches).1.upsert next = .ok (store', plan) →
      plan.storedCount + plan.duplicateCount = next.length ∧
      ∀ c ∈ next,
        (store' c.identity).held.length =
          ((store.afterAll batches).1 c.identity).held.length + plan.storedCount ∧
        (store' c.identity).firstLastCount c.identity =
          .ok ⟨plan.firstOpenTime, plan.lastOpenTime, plan.candleCount⟩ ∧
        plan.candleCount = (store' c.identity).held.length := by
  have hran := afterAll_ran hs batches
  refine ⟨hran.valid, hran.held, fun identity r => (hran.valid identity).readRange r,
    fun next store' plan h => ?_⟩
  have hstored := upsert_stored hran.valid h
  refine ⟨hstored.counts, fun c hc => ⟨hstored.length c hc, hstored.boundaries c hc, ?_⟩⟩
  have hboundaries := hstored.boundaries c hc
  rw [(hstored.valid c.identity).firstLastCount, Except.ok.injEq] at hboundaries
  have hcount := congrArg RawPartitionIntegritySnapshot.candleCount hboundaries
  rw [RawPartitionIntegritySnapshot.foldl_count_candleCount] at hcount
  dsimp only [RawPartitionIntegritySnapshot.empty] at hcount
  omega

/-- The store before the first batch. -/
def empty : RawStore := fun _ => []

theorem empty_valid : RawStore.empty.Valid :=
  fun _ => ⟨List.nodup_nil, fun _ hp => (List.not_mem_nil hp).elim⟩

theorem doubleVolume_nonneg : (0 : ℚ) ≤ 2 := zero_le_two

/-- A candle with twice its volume. -/
def doubled (c : Candle) : Candle := { c with volume := 2, volume_nonneg := doubleVolume_nonneg }

/-- Two candles of two months, the second of them again with a third one, and the third one with
another volume. -/
def threeBatches : List (List Candle) :=
  [[fourHourCandle 186, fourHourCandle 185], [fourHourCandle 186, fourHourCandle 187],
    [doubled (fourHourCandle 187)]]

theorem upserts_union_three : (RawStore.empty.afterAll threeBatches).1.Valid :=
  (upserts_union empty_valid threeBatches).1

/-- Batches that do not conflict with one another or with the store. -/
structure Compatible (store : RawStore) (batches : List (List Candle)) : Prop where
  storable : ∀ b ∈ batches, ∀ c ∈ b, Storable c
  series : ∀ b ∈ batches, ∀ c ∈ b, ∀ c' ∈ b, c'.identity = c.identity
  agree : ∀ b ∈ batches, ∀ c ∈ b, ∀ c', (∃ b' ∈ batches, c' ∈ b') ∧ c'.identity = c.identity ∨
    c' ∈ (store c.identity).held → c'.key = c.key → c' = c

theorem length_accepted_le (store : RawStore) (batches : List (List Candle)) :
    (store.afterAll batches).2.length ≤ batches.length := by
  induction batches generalizing store with
  | nil => exact le_rfl
  | cons batch batches ih =>
    cases h : store.upsert batch with
    | error e =>
      rw [afterAll_cons_error h]
      exact (ih store).trans (Nat.le_succ _)
    | ok out =>
      obtain ⟨store', plan⟩ := out
      rw [afterAll_cons_ok h]
      exact Nat.succ_le_succ (ih store')

/-- **All of the batches go in exactly when no two candles conflict.** -/
theorem afterAll_accepts_iff (hs : store.Valid) (batches : List (List Candle)) :
    (store.afterAll batches).2 = batches ↔ Compatible store batches := by
  induction batches generalizing store with
  | nil => exact iff_of_true rfl ⟨by simp, by simp, by simp⟩
  | cons batch batches ih =>
    cases h : store.upsert batch with
    | error e =>
      rw [afterAll_cons_error h]
      refine iff_of_false (fun heq => ?_) fun hcompat => ?_
      · have hlen := length_accepted_le store batches
        rw [heq] at hlen
        simp at hlen
      · have hacc : Acceptable store batch :=
          ⟨hcompat.storable batch List.mem_cons_self, hcompat.series batch List.mem_cons_self,
            fun c hc c' hc' hkey => hcompat.agree batch List.mem_cons_self c hc c'
              (hc'.imp_left fun hin => ⟨⟨batch, List.mem_cons_self, hin⟩,
                hcompat.series batch List.mem_cons_self c hc c' hin⟩) hkey⟩
        obtain ⟨out, hout⟩ := (upsert_eq_ok_iff hs).mpr hacc
        cases h.symm.trans hout
    | ok out =>
      obtain ⟨store', plan⟩ := out
      have hstored := upsert_stored hs h
      have hacc := (upsert_eq_ok_iff hs).mp ⟨_, h⟩
      rw [afterAll_cons_ok h, List.cons.injEq, eq_self_iff_true, true_and, ih hstored.valid]
      constructor
      · intro hrest
        refine ⟨List.forall_mem_cons.mpr ⟨hacc.storable, hrest.storable⟩,
          List.forall_mem_cons.mpr ⟨hacc.series, hrest.series⟩,
          List.forall_mem_cons.mpr ⟨fun c hc c' hc' hkey => ?_, fun b hb c hc c' hc' hkey => ?_⟩⟩
        · rcases hc' with ⟨⟨b', hb', hin⟩, hid⟩ | hheld
          · rcases List.mem_cons.mp hb' with rfl | hb'
            · exact hacc.agree c hc c' (.inl hin) hkey
            · -- the later candle meets this one in the store
              refine (hrest.agree b' hb' c' hin c (.inr ?_) hkey.symm).symm
              exact (hstored.held _ _).mpr (.inr ⟨hc, hid.symm⟩)
          · exact hacc.agree c hc c' (.inr hheld) hkey
        · refine hrest.agree b hb c hc c' ?_ hkey
          rcases hc' with ⟨⟨b', hb', hin⟩, hid⟩ | hheld
          · rcases List.mem_cons.mp hb' with rfl | hb'
            · exact .inr ((hstored.held _ _).mpr (.inr ⟨hin, hid⟩))
            · exact .inl ⟨⟨b', hb', hin⟩, hid⟩
          · exact .inr ((hstored.held _ _).mpr (.inl hheld))
      · intro hcompat
        refine ⟨fun b hb => hcompat.storable b (List.mem_cons_of_mem _ hb),
          fun b hb => hcompat.series b (List.mem_cons_of_mem _ hb), fun b hb c hc c' hc' hkey => ?_⟩
        refine hcompat.agree b (List.mem_cons_of_mem _ hb) c hc c' ?_ hkey
        rcases hc' with ⟨⟨b', hb', hin⟩, hid⟩ | hheld
        · exact .inl ⟨⟨b', List.mem_cons_of_mem _ hb', hin⟩, hid⟩
        · rcases (hstored.held _ _).mp hheld with hheld | ⟨hin, hid⟩
          · exact .inr hheld
          · exact .inl ⟨⟨batch, List.mem_cons_self, hin⟩, hid⟩

/-- Rows in order are told by their members. -/
theorem eq_of_sorted {rows rows' : List Candle}
    (h : rows.Pairwise fun c c' => c.openTime < c'.openTime)
    (h' : rows'.Pairwise fun c c' => c.openTime < c'.openTime) (hmem : ∀ c, c ∈ rows ↔ c ∈ rows') :
    rows = rows' := by
  have hanti : Std.Antisymm fun c c' : Candle => c.openTime < c'.openTime :=
    ⟨fun _ _ hlt hgt => absurd hlt hgt.asymm⟩
  exact ((List.perm_ext_iff_of_nodup (distinct_of_sorted h).nodup
    (distinct_of_sorted h').nodup).mpr hmem).eq_of_pairwise' h h'

/-- **Batches may come in any order and any number of times.** If all of them are accepted, so are
the same batches in another order and with repetitions, and every file ends up the same. -/
theorem upserts_confluent (hs : store.Valid) {batches' : List (List Candle)}
    (hsame : ∀ b, b ∈ batches' ↔ b ∈ batches) (hall : (store.afterAll batches).2 = batches) :
    (store.afterAll batches').2 = batches' ∧ ∀ identity month,
      ((store.afterAll batches').1 identity).file month =
        ((store.afterAll batches).1 identity).file month := by
  have hcompat := (afterAll_accepts_iff hs batches).mp hall
  have hall' : (store.afterAll batches').2 = batches' := by
    refine (afterAll_accepts_iff hs batches').mpr ⟨fun b hb => hcompat.storable b ((hsame b).mp hb),
      fun b hb => hcompat.series b ((hsame b).mp hb), fun b hb c hc c' hc' =>
        hcompat.agree b ((hsame b).mp hb) c hc c' (hc'.imp_left ?_)⟩
    rintro ⟨⟨b', hb', hin⟩, hid⟩
    exact ⟨⟨b', (hsame b').mp hb', hin⟩, hid⟩
  have hran := afterAll_ran hs batches
  have hran' := afterAll_ran hs batches'
  rw [hall] at hran
  rw [hall'] at hran'
  refine ⟨hall', fun identity month => ?_⟩
  by_cases hnew : ∃ b ∈ batches, ∃ c ∈ b, c.identity = identity ∧ monthOf c.openTime = month
  · obtain ⟨b, hb, c, hc, rfl, rfl⟩ := hnew
    -- both files exist, and hold the same rows in order
    have hin := (hran.held c.identity c).mpr (.inr ⟨⟨b, hb, hc⟩, rfl⟩)
    have hin' := (hran'.held c.identity c).mpr (.inr ⟨⟨b, (hsame b).mpr hb, hc⟩, rfl⟩)
    rw [(hran.valid _).mem_held] at hin
    rw [(hran'.valid _).mem_held] at hin'
    have hrows : ((store.afterAll batches').1 c.identity).rowsAt (monthOf c.openTime) =
        ((store.afterAll batches).1 c.identity).rowsAt (monthOf c.openTime) := by
      refine eq_of_sorted ((hran'.valid _).rowsAt _).sorted ((hran.valid _).rowsAt _).sorted
        fun x => ?_
      by_cases hx : monthOf x.openTime = monthOf c.openTime
      · rw [← hx, ← (hran'.valid _).mem_held, ← (hran.valid _).mem_held, hran'.held, hran.held]
        simp only [hsame]
      · exact iff_of_false (fun h => hx (((hran'.valid _).rowsAt _).each x h).2.2)
          fun h => hx (((hran.valid _).rowsAt _).each x h).2.2
    unfold PartitionFiles.rowsAt at hin hin' hrows
    cases hfile : ((store.afterAll batches).1 c.identity).file (monthOf c.openTime) with
    | none => simp [hfile] at hin
    | some rows =>
      cases hfile' : ((store.afterAll batches').1 c.identity).file (monthOf c.openTime) with
      | none => simp [hfile'] at hin'
      | some rows' =>
        rw [hfile, hfile', Option.getD_some, Option.getD_some] at hrows
        rw [hrows]
  · have hnone : ∀ b ∈ batches, ∀ c ∈ b, c.identity = identity → monthOf c.openTime ≠ month :=
      fun b hb c hc hid hm => hnew ⟨b, hb, c, hc, hid, hm⟩
    rw [hran.file identity month hnone, hran'.file identity month
      fun b hb => hnone b ((hsame b).mp hb)]

theorem upserts_confluent_swapped :
    ((RawStore.empty.afterAll [[fourHourCandle 186, fourHourCandle 187],
      [fourHourCandle 186, fourHourCandle 185],
      [fourHourCandle 186, fourHourCandle 187]]).1 (fourHourCandle 186).identity).file
        (monthOf (fourHourCandle 186).openTime) =
    ((RawStore.empty.afterAll (threeBatches.take 2)).1 (fourHourCandle 186).identity).file
        (monthOf (fourHourCandle 186).openTime) := by
  have hall : (RawStore.empty.afterAll (threeBatches.take 2)).2 = threeBatches.take 2 := by
    decide +kernel
  exact (upserts_confluent empty_valid (by simp [threeBatches, or_comm]) hall).2 _ _

end RawStore

end MarketData
end DryTrade
