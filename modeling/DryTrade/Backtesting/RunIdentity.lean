import DryTrade.Backtesting.ConfigRecords

/-!
# The identity of a run

A run is named by the digest of its configuration and of the snapshot it reads.  The canonical
value of a configuration tells all of it except whether a parameter of the strategy is a decimal
or the text of one.

## Main definitions

* `buildRunId` — the name of a run.
* `ConfigRecord.written` — a configuration with its decimal parameters as texts.

## Main results

* `ConfigRecord.json_eq_iff` — what a canonical value tells.
* `runId_injective_iff` — when equal names are names of equal runs.
-/

namespace DryTrade
namespace Backtesting

open MarketData Indicators

/-- The fields of a snapshot that a run is named by. -/
def identifiedFields (s : DatasetSnapshot) : String × String × String × String × DataRange :=
  (s.snapshotId, s.datasetKey, s.datasetVersion, s.checksum, s.dataRange)

/-- What a run is named by. -/
def runPayload (c : ConfigRecord Decimal) (s : DatasetSnapshot) : Json :=
  .obj [("config", c.json),
    ("snapshot", .obj [("checksum", .str s.checksum),
      ("data_range", rangeJson s.dataRange),
      ("dataset_key", .str s.datasetKey),
      ("dataset_version", .str s.datasetVersion),
      ("snapshot_id", .str s.snapshotId)])]

/-- `build_run_id`. -/
def buildRunId (sha256 : String → String) (c : ConfigRecord Decimal) (s : DatasetSnapshot) :
    Except Failure String := do
  (c.map Decimal.value).validate
  let runId := sha256 (String.ofList (runPayload c s).encode)
  FailureKind.value.unless (isSha256 runId) "backtest run id must be one lowercase SHA-256 digest"
  return runId

/-! ### What a canonical value tells -/

section

variable {d d' : Decimal}

@[simp] theorem decimalJson_eq_iff : decimalJson d = decimalJson d' ↔ d.value = d'.value := by
  rw [decimalJson, decimalJson, Json.str.injEq, String.ofList_inj, Decimal.text_eq_iff]

@[simp] theorem ofOption_decimalJson_eq_iff {a b : Option Decimal} :
    Json.ofOption decimalJson a = .ofOption decimalJson b ↔
      a.map Decimal.value = b.map Decimal.value := by
  cases a with
  | none => cases b <;> simp [Json.ofOption, decimalJson]
  | some d => cases b <;> simp [Json.ofOption, decimalJson, Decimal.text_eq_iff, String.ofList_inj]

@[simp] theorem timeJson_eq_iff {t t' : Instant} : timeJson t = timeJson t' ↔ t = t' := by
  rw [timeJson, timeJson, Json.str.injEq, String.ofList_inj, isoformat_injective.eq_iff]

@[simp] theorem rangeJson_eq_iff {r r' : DataRange} : rangeJson r = rangeJson r' ↔ r = r' := by
  cases r
  cases r'
  simp [rangeJson, and_comm]

theorem PositionSizingKind.value_injective : Function.Injective PositionSizingKind.value := by
  intro a b h
  cases a <;> cases b <;> first | rfl | exact absurd h (by decide)

theorem StopLossKind.value_injective : Function.Injective StopLossKind.value := by
  intro a b h
  cases a <;> cases b <;> first | rfl | exact absurd h (by decide)

/-- Lists are told apart by `f` when their elements are, by `g` and `k`. -/
theorem map_eq_map_iff_and {α β γ δ : Type} {f : α → β} {g : α → γ} {k : α → δ}
    (h : ∀ a b, f a = f b ↔ g a = g b ∧ k a = k b) {l l' : List α} :
    l.map f = l'.map f ↔ l.map g = l'.map g ∧ l.map k = l'.map k := by
  induction l generalizing l' with
  | nil => cases l' <;> simp
  | cons a l ih =>
    cases l' with
    | nil => simp
    | cons b l' =>
      simp only [List.map_cons, List.cons.injEq, h, ih]
      tauto

theorem map_eq_map_iff_of {α β γ : Type} {f : α → β} {g : α → γ}
    (h : ∀ a b, f a = f b ↔ g a = g b) {l l' : List α} : l.map f = l'.map f ↔ l.map g = l'.map g := by
  rw [map_eq_map_iff_and fun a b => (h a b).trans (and_self_iff).symm, and_self_iff]

end

theorem SizingRecord.json_eq_iff {r r' : SizingRecord Decimal} :
    r.json = r'.json ↔ r.map Decimal.value = r'.map Decimal.value := by
  simp [json, map, PositionSizingKind.value_injective.eq_iff]
  tauto

theorem ConstraintsRecord.json_eq_iff {r r' : ConstraintsRecord Decimal} :
    r.json = r'.json ↔ r.map Decimal.value = r'.map Decimal.value := by
  simp [json, map]
  tauto

theorem StopLossRecord.json_eq_iff {r r' : StopLossRecord Decimal} :
    r.json = r'.json ↔ r.map Decimal.value = r'.map Decimal.value := by
  simp [json, map, StopLossKind.value_injective.eq_iff]

theorem PolicyRecord.json_eq_iff {r r' : PolicyRecord Decimal} :
    r.json = r'.json ↔ r.map Decimal.value = r'.map Decimal.value := by
  simp [json, map]
  tauto

theorem ExecutionRecord.json_eq_iff {r r' : ExecutionRecord Decimal} :
    r.json = r'.json ↔ r.map Decimal.value = r'.map Decimal.value := by
  cases h : r.positionSizing with
  | none =>
    cases h' : r'.positionSizing with
    | none =>
      simp [json, map, optionalField, h, h']
      tauto
    | some sizing' => simp [json, map, optionalField, h, h']
  | some sizing =>
    cases h' : r'.positionSizing with
    | none => simp [json, map, optionalField, h, h']
    | some sizing' =>
      simp [json, map, optionalField, h, h', SizingRecord.json_eq_iff]
      tauto

theorem RiskRecord.json_eq_iff {r r' : RiskRecord Decimal} :
    r.json = r'.json ↔ r.map Decimal.value = r'.map Decimal.value := by
  cases h : r.stopLoss with
  | none =>
    cases h' : r'.stopLoss with
    | none =>
      simp [json, map, optionalField, h, h']
      tauto
    | some stopLoss' => simp [json, map, optionalField, h, h']
  | some stopLoss =>
    cases h' : r'.stopLoss with
    | none => simp [json, map, optionalField, h, h']
    | some stopLoss' =>
      simp [json, map, optionalField, h, h', StopLossRecord.json_eq_iff]
      tauto

/-! ### Decimals and their texts -/

/-- A parameter, as its canonical value is read: a decimal is its text. -/
def ParameterValue.written : ParameterValue Decimal → ParameterValue Decimal
  | .decimal d => .str (String.ofList d.text)
  | p => p

def ParameterValue.isDecimal {D : Type} : ParameterValue D → Bool
  | .decimal _ => true
  | _ => false

/-- A strategy with its decimal parameters as texts. -/
def StrategyRecord.written (r : StrategyRecord Decimal) : StrategyRecord Decimal :=
  { r with parameters := r.parameters.map fun p => (p.1, p.2.written) }

/-- A configuration with its decimal parameters as texts. -/
def ConfigRecord.written (r : ConfigRecord Decimal) : ConfigRecord Decimal :=
  { r with strategy := r.strategy.written }

/-- Which parameters are decimals. -/
def StrategyRecord.decimals {D : Type} (r : StrategyRecord D) : List Bool :=
  r.parameters.map fun p => p.2.isDecimal

theorem ParameterValue.json_eq_iff {p p' : ParameterValue Decimal} :
    p.json = p'.json ↔ p.written.map Decimal.value = p'.written.map Decimal.value := by
  cases p <;> cases p' <;> simp [json, written, map, decimalJson]

/-- Two parameters are equal when they are written alike and are of one type. -/
theorem ParameterValue.map_value_eq_iff {p p' : ParameterValue Decimal} :
    p.map Decimal.value = p'.map Decimal.value ↔
      p.written.map Decimal.value = p'.written.map Decimal.value ∧ p.isDecimal = p'.isDecimal := by
  cases p <;> cases p' <;> simp [written, map, isDecimal, Decimal.text_eq_iff, String.ofList_inj]

theorem StrategyRecord.json_eq_iff {r r' : StrategyRecord Decimal} :
    r.json = r'.json ↔ r.written.map Decimal.value = r'.written.map Decimal.value := by
  have hparameters : (r.parameters.map fun p => Json.arr [.str p.1, p.2.json]) =
      (r'.parameters.map fun p => Json.arr [.str p.1, p.2.json]) ↔
        (r.parameters.map fun p => (p.1, p.2.written.map Decimal.value)) =
          r'.parameters.map fun p => (p.1, p.2.written.map Decimal.value) :=
    map_eq_map_iff_of fun a b => by simp [ParameterValue.json_eq_iff]
  simp [json, written, map, hparameters, Function.comp_def]
  tauto

theorem StrategyRecord.map_value_eq_iff {r r' : StrategyRecord Decimal} :
    r.map Decimal.value = r'.map Decimal.value ↔
      r.written.map Decimal.value = r'.written.map Decimal.value ∧ r.decimals = r'.decimals := by
  have hparameters : ∀ {l l' : List (String × ParameterValue Decimal)},
      (l.map fun p => (p.1, p.2.map Decimal.value)) =
          (l'.map fun p => (p.1, p.2.map Decimal.value)) ↔
        (l.map fun p => (p.1, p.2.written.map Decimal.value)) =
            (l'.map fun p => (p.1, p.2.written.map Decimal.value)) ∧
          (l.map fun p => p.2.isDecimal) = l'.map fun p => p.2.isDecimal :=
    map_eq_map_iff_and fun a b => by
      rw [Prod.mk.injEq, ParameterValue.map_value_eq_iff, Prod.mk.injEq, and_assoc]
  simp [written, map, decimals, hparameters, Function.comp_def]
  tauto

theorem ConfigRecord.json_eq_iff {r r' : ConfigRecord Decimal} :
    r.json = r'.json ↔ r.written.map Decimal.value = r'.written.map Decimal.value := by
  have hevaluation : ∀ e e' : EvaluationRecord, e = e' ↔
      e.range = e'.range ∧ e.strategyLifecycleVersion = e'.strategyLifecycleVersion := by
    rintro ⟨range, version⟩ ⟨range', version'⟩
    simp
  cases he : r.evaluation <;> cases he' : r'.evaluation <;>
    cases hp : r.marketRegimePolicy <;> cases hp' : r'.marketRegimePolicy <;>
    simp [json, map, written, optionalField, he, he', hp, hp', ConstraintsRecord.json_eq_iff,
      ExecutionRecord.json_eq_iff, RiskRecord.json_eq_iff, StrategyRecord.json_eq_iff,
      PolicyRecord.json_eq_iff, hevaluation] <;>
    tauto

/-- **Two configurations are equal** when they are written alike and the same parameters are
decimals. -/
theorem ConfigRecord.map_value_eq_iff {r r' : ConfigRecord Decimal} :
    r.map Decimal.value = r'.map Decimal.value ↔
      r.written.map Decimal.value = r'.written.map Decimal.value ∧
        r.strategy.decimals = r'.strategy.decimals := by
  simp only [map, written, mk.injEq]
  rw [StrategyRecord.map_value_eq_iff]
  tauto

/-! ### What a name tells -/

section

variable {sha256 : String → String} {c c' : ConfigRecord Decimal} {s s' : DatasetSnapshot}
  {runId runId' : String}

theorem runPayload_eq_iff : runPayload c s = runPayload c' s' ↔
    c.written.map Decimal.value = c'.written.map Decimal.value ∧
      identifiedFields s = identifiedFields s' := by
  simp [runPayload, identifiedFields, ConfigRecord.json_eq_iff]
  tauto

theorem buildRunId_eq_ok (h : buildRunId sha256 c s = .ok runId) :
    runId = sha256 (String.ofList (runPayload c s).encode) := by
  simp only [buildRunId, bind_eq_ok, FailureKind.unless_eq_ok, exists_const, pure, Except.pure,
    Except.ok.injEq] at h
  obtain ⟨-, -, -, rfl⟩ := h
  rfl

/-- **What a name tells** of a run: all of it but which texts are decimals. -/
theorem runId_eq_iff (hsha : Function.Injective sha256) (h : buildRunId sha256 c s = .ok runId)
    (h' : buildRunId sha256 c' s' = .ok runId') : runId = runId' ↔
      c.written.map Decimal.value = c'.written.map Decimal.value ∧
        identifiedFields s = identifiedFields s' := by
  rw [buildRunId_eq_ok h, buildRunId_eq_ok h', hsha.eq_iff, String.ofList_inj,
    Json.encode_injective.eq_iff, runPayload_eq_iff]

end

/-! ### A period and its text -/

/-- A configuration with one parameter. -/
def periodConfig (period : ParameterValue Decimal) : ConfigRecord Decimal where
  snapshotId := "snapshot"
  dataRange := ⟨0, 86400000000, by decide⟩
  strategy := ⟨"ema", "1", [("period", period)]⟩
  initialCapital := ⟨false, 1000, 0⟩
  execution := ⟨⟨false, 10, 0⟩, ⟨false, 10, 0⟩, ⟨false, 5, 0⟩, false, none⟩
  constraints := ⟨⟨false, 1, -3⟩, ⟨false, 1, -3⟩, ⟨false, 1, -2⟩, ⟨false, 10, 0⟩, none⟩
  riskLimits := ⟨none, none, 10, 10, none, true, false, ⟨false, 0, 0⟩, none⟩
  historyWindow := 10
  maxCandles := 10
  maxOrders := 10
  maxEvents := 10
  engineVersion := "1"
  schemaVersion := 1
  evaluation := none
  marketRegimePolicy := none

def periodSnapshot : DatasetSnapshot where
  snapshotId := "snapshot"
  datasetKey := "BTCUSDT/1d"
  datasetVersion := "version"
  checksum := "checksum"
  dataRange := ⟨0, 86400000000, by decide⟩
  partitions := []
  manifestPath := ""
  createdAt := ""

/-- The digest of the run of a period of twenty. -/
def periodDigest : String := "36b1d9fda4e2cb25afe61d7d94ac5cb53b5af51757d96620806dcbd4f79fa8e7"

/-- An injective function with that digest. -/
def periodSha256 : String → String :=
  Equiv.swap (String.ofList (runPayload (periodConfig (.str "20")) periodSnapshot).encode)
    periodDigest

/-- A period given as a decimal or as its text names the same run. -/
theorem buildRunId_period {period : ParameterValue Decimal}
    (hvalid : ((periodConfig period).map Decimal.value).validate = .ok ())
    (hwritten : period.written.map Decimal.value = .str "20") :
    buildRunId periodSha256 (periodConfig period) periodSnapshot = .ok periodDigest := by
  have hpayload : runPayload (periodConfig period) periodSnapshot =
      runPayload (periodConfig (.str "20")) periodSnapshot := by
    refine runPayload_eq_iff.mpr ⟨?_, rfl⟩
    simp only [periodConfig, ConfigRecord.written, ConfigRecord.map, StrategyRecord.written,
      StrategyRecord.map, List.map_cons, List.map_nil, hwritten]
    rfl
  have hhex : isSha256 periodDigest = true := by decide
  rw [buildRunId, hvalid, hpayload, periodSha256, Equiv.swap_apply_left]
  simp [bind, Except.bind, pure, Except.pure, FailureKind.unless, hhex]

end Backtesting
end DryTrade
