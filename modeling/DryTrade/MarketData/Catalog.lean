import DryTrade.Failure
import DryTrade.MarketData.Domain

/-!
# The dataset catalog

The shared `catalog.json`: the datasets, the ingestion runs and the receipts of
committed chunks, each under its own key.  A JSON object is a partial function of
its keys.  The functions of this file are what the catalog computes from a loaded
state; reading and writing the file is the business of the transaction.

## Main definitions

* `CatalogState` — the three objects of the file.
* `prepareCompletion` — the plan that completes a run.
* `rollbackSemantic` — revert the keys of one transaction.
* `failRun`, `markAbandonedRunFailed` — move a run to its failed state.
-/

namespace DryTrade
namespace MarketData

/-! ### Records -/

structure RawPartitionIntegrityEntry where
  relativePath : String
  checksum : String
  deriving DecidableEq, Repr

/-- Proof of the partitions of one dataset version. -/
structure RawPartitionIntegrityManifest where
  schemaVersion : ℕ
  boundDatasetVersion : String
  checksumAlgorithm : String
  entries : List RawPartitionIntegrityEntry
  deriving DecidableEq, Repr

/-- Logical dataset state; candles remain in the partition files. -/
structure DatasetMetadata where
  key : String
  exchange : String
  marketType : String
  symbol : String
  nativeSymbol : String
  timeframe : String
  location : String
  firstOpenTime : Option String
  lastOpenTime : Option String
  candleCount : ℤ
  version : String
  updatedAt : String
  versionAlgorithm : String
  partitionIntegrity : Option RawPartitionIntegrityManifest
  deriving DecidableEq, Repr

inductive RunStatus
  | running
  | completed
  | failed
  deriving DecidableEq, Repr

/-- Operational state of one ingestion. -/
structure IngestionRunRecord where
  runId : String
  datasetKey : String
  status : RunStatus
  startedAt : String
  finishedAt : Option String
  fetchedCount : ℤ
  storedCount : ℤ
  errorCode : Option String
  deriving DecidableEq, Repr

/-- Evidence that one chunk of a job was committed. -/
structure ChunkCommitReceipt where
  jobId : String
  chunkIndex : ℕ
  datasetKey : String
  start : String
  stop : String
  fetchedCount : ℤ
  storedCount : ℤ
  duplicateCount : ℤ
  requestCount : ℤ
  version : String
  checksum : String
  committedAt : String
  versionAlgorithm : String
  deriving DecidableEq, Repr

/-- `f"{job_id}:{chunk_index}"`. -/
def receiptKey (jobId : String) (chunkIndex : ℕ) : String := jobId ++ ":" ++ toString chunkIndex

/-- The three objects of `catalog.json`. -/
structure CatalogState where
  datasets : String → Option DatasetMetadata
  runs : String → Option IngestionRunRecord
  receipts : String → Option ChunkCommitReceipt

/-- What `_load` answers when there is no file. -/
def CatalogState.empty : CatalogState := ⟨fun _ => none, fun _ => none, fun _ => none⟩

/-- `mapping[key] = value`, or `mapping.pop(key, None)` for no value. -/
def assign {α : Type} (mapping : String → Option α) (key : String) (value : Option α) :
    String → Option α :=
  Function.update mapping key value

@[simp] theorem assign_self {α : Type} (mapping : String → Option α) (key : String)
    (value : Option α) : assign mapping key value key = value := Function.update_self ..

theorem assign_of_ne {α : Type} {mapping : String → Option α} {key key' : String}
    {value : Option α} (h : key' ≠ key) : assign mapping key value key' = mapping key' :=
  Function.update_of_ne h ..

/-- `mapping.get(receipt_key)` where a transaction may have no receipt. -/
def lookup {α : Type} (mapping : String → Option α) : Option String → Option α
  | none => none
  | some key => mapping key

/-- `assign` where a transaction may have no receipt. -/
def assignAt {α : Type} (mapping : String → Option α) (key : Option String) (value : Option α) :
    String → Option α :=
  match key with
  | none => mapping
  | some key => assign mapping key value

/-! ### Transactions -/

/-- The keys one transaction owns, with their values before and after it. -/
structure CatalogMutation where
  datasetKey : String
  datasetBefore : Option DatasetMetadata
  datasetIntended : DatasetMetadata
  runId : String
  runBefore : IngestionRunRecord
  runIntended : IngestionRunRecord
  receiptKey : Option String
  receiptBefore : Option ChunkCommitReceipt
  receiptIntended : Option ChunkCommitReceipt
  deriving DecidableEq

/-- Put the given values under the keys of a transaction. -/
def CatalogMutation.put (m : CatalogMutation) (dataset : Option DatasetMetadata)
    (run : Option IngestionRunRecord) (receipt : Option ChunkCommitReceipt) (c : CatalogState) :
    CatalogState where
  datasets := assign c.datasets m.datasetKey dataset
  runs := assign c.runs m.runId run
  receipts := assignAt c.receipts m.receiptKey receipt

/-- One validated catalog replacement. -/
structure CatalogPlan extends CatalogMutation where
  transactionId : String
  hadOriginal : Bool
  content : CatalogState

/-- The receipt part of a completion: its key, the value before and the value after. -/
def prepareReceipt (receipts : String → Option ChunkCommitReceipt) :
    Option ChunkCommitReceipt → Except Failure
      (Option String × Option ChunkCommitReceipt × Option ChunkCommitReceipt)
  | none => .ok (none, none, none)
  | some receipt => do
      let key := receiptKey receipt.jobId receipt.chunkIndex
      FailureKind.marketDataInconsistency.unless
        ((receipts key).all fun existing => decide (existing = receipt))
        "O recibo persistido do chunk diverge."
      return (some key, receipts key, some receipt)

/-- Validate the lifecycle of a run and build the catalog that completes it; `hadOriginal` says
whether the file exists. -/
def prepareCompletion (state : CatalogState) (hadOriginal : Bool) (run : IngestionRunRecord)
    (dataset : DatasetMetadata) (transactionId : String) (receipt : Option ChunkCommitReceipt) :
    Except Failure CatalogPlan :=
  match state.runs run.runId with
  | none =>
      FailureKind.marketDataInconsistency.raiseWith "A ingestão não existe no catálogo."
  | some existing => do
      FailureKind.marketDataInconsistency.unless
        (decide (existing.datasetKey = dataset.key ∧ run.datasetKey = dataset.key))
        "A ingestão pertence a outro dataset."
      FailureKind.marketDataInconsistency.unless (decide (existing.status = .running))
        "A ingestão não está em estado RUNNING."
      FailureKind.marketDataInconsistency.unless (decide (existing.startedAt = run.startedAt))
        "O início da ingestão diverge do catálogo."
      FailureKind.marketDataInconsistency.unless
        (decide (run.status = .completed ∧ run.finishedAt ≠ none ∧ run.errorCode = none ∧
          0 ≤ run.fetchedCount ∧ 0 ≤ run.storedCount ∧ run.storedCount ≤ run.fetchedCount ∧
          0 ≤ dataset.candleCount))
        "O estado final da ingestão é incoerente."
      let (key, before, intended) ← prepareReceipt state.receipts receipt
      let mutation : CatalogMutation :=
        { datasetKey := dataset.key
          datasetBefore := state.datasets dataset.key
          datasetIntended := dataset
          runId := run.runId
          runBefore := existing
          runIntended := run
          receiptKey := key
          receiptBefore := before
          receiptIntended := intended }
      return { mutation with
        transactionId := transactionId
        hadOriginal := hadOriginal
        content := mutation.put (some dataset) (some run) intended state }

/-- The three owned values of a state, in the order they are compared. -/
def CatalogMutation.owned (m : CatalogMutation) (c : CatalogState) :
    Option DatasetMetadata × Option IngestionRunRecord × Option ChunkCommitReceipt :=
  (c.datasets m.datasetKey, c.runs m.runId, lookup c.receipts m.receiptKey)

/-- Every owned value is the one before the transaction or the intended one. -/
def CatalogMutation.recognizes (m : CatalogMutation) (c : CatalogState) : Bool :=
  decide (c.datasets m.datasetKey = m.datasetBefore ∨
      c.datasets m.datasetKey = some m.datasetIntended) &&
    decide (c.runs m.runId = some m.runBefore ∨ c.runs m.runId = some m.runIntended) &&
    (m.receiptKey.isNone || decide (lookup c.receipts m.receiptKey = m.receiptBefore ∨
      lookup c.receipts m.receiptKey = m.receiptIntended))

/-- A value that is the intended one goes back to the one before. -/
def revert {α : Type} [DecidableEq α] (current before intended : Option α) : Option α :=
  if current = intended then before else current

/-- Some owned value is the intended one. -/
def CatalogMutation.touches (m : CatalogMutation) (c : CatalogState) : Bool :=
  decide (c.datasets m.datasetKey = some m.datasetIntended) ||
    decide (c.runs m.runId = some m.runIntended) ||
    (m.receiptKey.isSome && decide (lookup c.receipts m.receiptKey = m.receiptIntended))

/-- Revert only the keys owned by one transaction; `none` where nothing has to be written. -/
def rollbackSemantic (m : CatalogMutation) (c : CatalogState) :
    Except Failure (Option CatalogState) := do
  FailureKind.marketDataInconsistency.unless (m.recognizes c)
    "O catálogo divergiu da transação pendente."
  return if m.touches c then
    some (m.put (revert (c.datasets m.datasetKey) m.datasetBefore (some m.datasetIntended))
      (revert (c.runs m.runId) (some m.runBefore) (some m.runIntended))
      (revert (lookup c.receipts m.receiptKey) m.receiptBefore m.receiptIntended) c)
  else none

/-! ### Failed runs -/

/-- `_sanitize_error_code`. -/
def sanitizeErrorCode (value : String) : String :=
  let sanitized := value.toList.filter fun c => c.isAlphanum || c == '_'
  String.ofList ((if sanitized = [] then "ingestion_failed".toList else sanitized).take 64)

/-- The failed record of a run. -/
def IngestionRunRecord.fail (run : IngestionRunRecord) (runId datasetKey finishedAt errorCode : String) :
    IngestionRunRecord where
  runId := runId
  datasetKey := datasetKey
  status := .failed
  startedAt := run.startedAt
  finishedAt := some finishedAt
  fetchedCount := run.fetchedCount
  storedCount := 0
  errorCode := some errorCode

/-- Move a run that is not completed to its failed state. -/
def failRun (runId datasetKey errorCode now : String) (c : CatalogState) :
    Except Failure CatalogState :=
  match c.runs runId with
  | none => FailureKind.marketDataInconsistency.raiseWith "A ingestão não existe no catálogo."
  | some existing => do
      FailureKind.marketDataInconsistency.unless (decide (existing.datasetKey = datasetKey))
        "A ingestão pertence a outro dataset."
      FailureKind.marketDataInconsistency.unless (decide (existing.status ≠ .completed))
        "Uma ingestão concluída não pode falhar."
      return { c with
        runs := assign c.runs runId
          (some (existing.fail runId datasetKey now (sanitizeErrorCode errorCode))) }

/-- Fail one run if it is still RUNNING; `none` where nothing has to be written. -/
def markAbandonedRunFailed (runId now : String) (c : CatalogState) : Option CatalogState :=
  match c.runs runId with
  | none => none
  | some run =>
      if run.status = .running then
        some { c with
          runs := assign c.runs runId
            (some (run.fail runId run.datasetKey now "interrupted_ingestion")) }
      else none

/-! ### What a rollback reverts -/

section

variable {m : CatalogMutation} {c : CatalogState}

@[simp] theorem lookup_assignAt (mapping : String → Option ChunkCommitReceipt)
    (key : Option String) (value : Option ChunkCommitReceipt) (h : key = none → value = none) :
    lookup (assignAt mapping key value) key = value := by
  cases key with
  | none => exact (h rfl).symm
  | some k => exact assign_self ..

/-- What is put under the owned keys is found there. -/
theorem CatalogMutation.owned_put {d : Option DatasetMetadata} {r : Option IngestionRunRecord}
    {x : Option ChunkCommitReceipt} (h : m.receiptKey = none → x = none) :
    m.owned (m.put d r x c) = (d, r, x) := by
  simp only [CatalogMutation.owned, CatalogMutation.put, assign_self, lookup_assignAt _ _ _ h]

/-- The entries under the keys of others. -/
structure CatalogMutation.Untouched (m : CatalogMutation) (c c' : CatalogState) : Prop where
  datasets : ∀ key, key ≠ m.datasetKey → c'.datasets key = c.datasets key
  runs : ∀ key, key ≠ m.runId → c'.runs key = c.runs key
  receipts : ∀ key, m.receiptKey ≠ some key → c'.receipts key = c.receipts key

theorem CatalogMutation.Untouched.refl (m : CatalogMutation) (c : CatalogState) :
    m.Untouched c c := ⟨fun _ _ => rfl, fun _ _ => rfl, fun _ _ => rfl⟩

theorem CatalogMutation.Untouched.trans {c' c'' : CatalogState} (h : m.Untouched c c')
    (h' : m.Untouched c' c'') : m.Untouched c c'' :=
  ⟨fun k hk => (h'.datasets k hk).trans (h.datasets k hk),
    fun k hk => (h'.runs k hk).trans (h.runs k hk),
    fun k hk => (h'.receipts k hk).trans (h.receipts k hk)⟩

theorem CatalogMutation.untouched_put (d : Option DatasetMetadata)
    (r : Option IngestionRunRecord) (x : Option ChunkCommitReceipt) :
    m.Untouched c (m.put d r x c) where
  datasets := fun _ hk => assign_of_ne hk
  runs := fun _ hk => assign_of_ne hk
  receipts := fun key hk => by
    unfold CatalogMutation.put assignAt
    cases hkey : m.receiptKey with
    | none => rfl
    | some k => exact assign_of_ne fun h => hk (by rw [hkey, h])

/-- The owned values before the transaction. -/
def CatalogMutation.before (m : CatalogMutation) :
    Option DatasetMetadata × Option IngestionRunRecord × Option ChunkCommitReceipt :=
  (m.datasetBefore, some m.runBefore, m.receiptBefore)

/-- The intended owned values. -/
def CatalogMutation.intended (m : CatalogMutation) :
    Option DatasetMetadata × Option IngestionRunRecord × Option ChunkCommitReceipt :=
  (some m.datasetIntended, some m.runIntended, m.receiptIntended)

theorem revert_eq {α : Type} [DecidableEq α] {current before intended : Option α}
    (h : current = before ∨ current = intended) : revert current before intended = before := by
  unfold revert
  split
  · rfl
  · next hne => exact h.resolve_right hne

end

/-- **A completion plan** starts from the values of the catalog it was prepared on, and its
content has the intended ones. -/
theorem prepareCompletion_ok {c : CatalogState} {hadOriginal : Bool} {run : IngestionRunRecord}
    {dataset : DatasetMetadata} {transactionId : String} {receipt : Option ChunkCommitReceipt}
    {plan : CatalogPlan}
    (h : prepareCompletion c hadOriginal run dataset transactionId receipt = .ok plan) :
    plan.hadOriginal = hadOriginal ∧ plan.transactionId = transactionId ∧
      plan.owned c = plan.before ∧ plan.owned plan.content = plan.intended ∧
      plan.Untouched c plan.content ∧
      (plan.runBefore.status = .running ∧ plan.runBefore.datasetKey = plan.datasetKey) ∧
      plan.runIntended.status = .completed ∧ plan.runIntended.datasetKey = plan.datasetKey := by
  unfold prepareCompletion at h
  split at h
  · simp at h
  · next existing hexisting =>
    simp only [bind_eq_ok, pure, Except.pure, Except.ok.injEq, FailureKind.unless_eq_ok,
      exists_const, Prod.exists] at h
    obtain ⟨hkeys, hrunning, -, hfinal, key, before, intended, hreceipt, rfl⟩ := h
    have hkey : (key = none → intended = none) ∧ before = lookup c.receipts key := by
      cases receipt with
      | none =>
        cases hreceipt
        exact ⟨fun _ => rfl, rfl⟩
      | some r =>
        simp only [prepareReceipt, bind_eq_ok, pure, Except.pure, Except.ok.injEq, Prod.mk.injEq,
          FailureKind.unless_eq_ok, exists_const] at hreceipt
        obtain ⟨-, rfl, rfl, rfl⟩ := hreceipt
        exact ⟨fun hnone => by simp at hnone, rfl⟩
    obtain ⟨hexistingKey, hrunKey⟩ := of_decide_eq_true hkeys
    refine ⟨rfl, rfl, ?_, ?_, CatalogMutation.untouched_put ..,
      ⟨of_decide_eq_true hrunning, hexistingKey⟩, (of_decide_eq_true hfinal).1, hrunKey⟩
    · simp only [CatalogMutation.owned, CatalogMutation.before, hexisting, hkey.2]
    · exact CatalogMutation.owned_put hkey.1

/-- A plan that completes a RUNNING run changes its owned values. -/
theorem CatalogMutation.before_ne_intended {m : CatalogMutation}
    (hbefore : m.runBefore.status = .running) (hintended : m.runIntended.status = .completed) :
    m.before ≠ m.intended := by
  intro heq
  have hrun : m.runBefore = m.runIntended := Option.some.inj (congrArg (fun v => v.2.1) heq)
  rw [hrun, hintended] at hbefore
  cases hbefore

end MarketData
end DryTrade
