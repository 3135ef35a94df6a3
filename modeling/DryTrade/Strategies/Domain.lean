import DryTrade.Growth
import DryTrade.OrderStatistics
import DryTrade.Backtesting.ConfigRecords

/-!
# Strategy plugins and their parameters

A plugin declares its parameters: their names, kinds and bounds, and the defaults of those that are
not required.  A mapping of supplied values is checked against the declarations, without coercion,
and listed in the order of the names.

## Main definitions

* `StrategyParameterSpec`, `StrategyPluginDescriptor` — the declarations; the checks of their
  constructors are their fields.
* `StrategyParameterSpec.normalize`, `StrategyPluginDescriptor.normalizeParameters` — the values.
* `Normalized` — parameters that are listed and checked.

## Main results

* `normalize_normal` — normalizing is idempotent.
* `normalizeParameters_normalized`, `Normalized.normalizeParameters_eq` — what is returned is
  normalized, and returned again.
* `normalizeParameters_congr` — only the values of a mapping count, not their order.
-/

namespace DryTrade
namespace Strategies

open Backtesting

/-! ### Errors -/

/-- The exception classes of plugins and of their stored parameters. -/
inductive StrategyErrorKind
  | invalidStrategyPlugin
  | strategyPluginNotFound
  | strategyParameterValidation
  | strategyIndicatorCompatibility
  | invalidStrategyDefinition
  | strategyDefinitionCompatibility
  | key
  | value
  deriving DecidableEq, Repr

/-- One raised exception. -/
structure StrategyError where
  kind : StrategyErrorKind
  message : String
  deriving DecidableEq, Repr

/-! ### Declarations -/

inductive StrategyParameterKind
  | boolean
  | integer
  | decimal
  | string
  deriving DecidableEq, Repr

/-- A bound of a parameter. -/
inductive ParameterBound
  | int (n : ℤ)
  | decimal (d : Decimal)

def ParameterBound.value : ParameterBound → ℚ
  | .int n => n
  | .decimal d => d.value

def ParameterBound.kind : ParameterBound → StrategyParameterKind
  | .int _ => .integer
  | .decimal _ => .decimal

/-- A supplied value: one of a parameter, a container that may be changed, or something else. -/
inductive RawValue
  | value (v : ParameterValue Decimal)
  | float
  | nonFinite
  | mutable
  | other

/-- The number that the bounds apply to. -/
def numberOf : ParameterValue Decimal → Option ℚ
  | .int n => some n
  | .decimal d => some d.value
  | _ => none

/-- `_validate_range`. -/
def validateRange (name : String) (minimum maximum : Option ParameterBound)
    (value : ParameterValue Decimal) : Except StrategyError Unit :=
  match numberOf value with
  | none => .ok ()
  | some q => do
    require (minimum.all (fun b => decide (b.value ≤ q)) = true)
      ⟨.strategyParameterValidation, "parameter " ++ name ++ " is below minimum"⟩
    require (maximum.all (fun b => decide (q ≤ b.value)) = true)
      ⟨.strategyParameterValidation, "parameter " ++ name ++ " exceeds maximum"⟩

/-- A value of a kind, without coercion; strings are stripped. -/
def typedValue (name : String) (kind : StrategyParameterKind) (raw : RawValue) :
    Except StrategyError (ParameterValue Decimal) :=
  match kind, raw with
  | _, .float =>
    .error ⟨.strategyParameterValidation, "strategy parameters must not contain float"⟩
  | .boolean, .value (.bool b) => .ok (.bool b)
  | .boolean, _ => .error ⟨.strategyParameterValidation, "parameter " ++ name ++ " must be boolean"⟩
  | .integer, .value (.int n) => .ok (.int n)
  | .integer, _ => .error ⟨.strategyParameterValidation, "parameter " ++ name ++ " must be integer"⟩
  | .decimal, .value (.decimal d) => .ok (.decimal d)
  | .decimal, _ =>
    .error ⟨.strategyParameterValidation, "parameter " ++ name ++ " must be a finite Decimal"⟩
  | .string, .value (.str s) =>
    if strip s = "" then
      .error ⟨.strategyParameterValidation, "parameter " ++ name ++ " must not be empty"⟩
    else .ok (.str (strip s))
  | .string, _ => .error ⟨.strategyParameterValidation, "parameter " ++ name ++ " must be string"⟩

/-- A value of a kind, within the bounds. -/
def normalizeValue (name : String) (kind : StrategyParameterKind)
    (minimum maximum : Option ParameterBound) (raw : RawValue) :
    Except StrategyError (ParameterValue Decimal) := do
  let normalized ← typedValue name kind raw
  validateRange name minimum maximum normalized
  return normalized

/-- One parameter declaration. -/
structure StrategyParameterSpec where
  name : String
  kind : StrategyParameterKind
  required : Bool
  default : ParameterValue Decimal
  minimum : Option ParameterBound
  maximum : Option ParameterBound
  name_safe : isFillToken name = true
  required_iff : required = true ↔ default = .none
  minimum_kind : ∀ b ∈ minimum, b.kind = kind
  maximum_kind : ∀ b ∈ maximum, b.kind = kind
  minimum_le : ∀ a ∈ minimum, ∀ b ∈ maximum, a.value ≤ b.value
  default_normal : default ≠ .none →
    normalizeValue name kind minimum maximum (.value default) = .ok default

/-- `StrategyParameterSpec.normalize`. -/
def StrategyParameterSpec.normalize (spec : StrategyParameterSpec) (raw : RawValue) :
    Except StrategyError (ParameterValue Decimal) :=
  normalizeValue spec.name spec.kind spec.minimum spec.maximum raw

/-- The identity of an indicator. -/
structure IndicatorCapability where
  name : String
  version : String
  schemaVersion : ℕ
  deriving DecidableEq

/-- An indicator that a plugin requires. -/
structure StrategyIndicatorRequirement where
  aliasName : String
  capability : IndicatorCapability
  deriving DecidableEq

/-- The identity of a plugin, its parameters, sorted by their names, and its indicators. -/
structure StrategyPluginDescriptor where
  name : String
  version : String
  parameters : List StrategyParameterSpec
  indicators : List StrategyIndicatorRequirement
  schemaVersion : ℕ
  lifecycleVersion : ℕ
  name_safe : isFillToken name = true
  version_safe : isFillToken version = true
  schemaVersion_eq : schemaVersion = 1
  lifecycleVersion_mem : lifecycleVersion = 1 ∨ lifecycleVersion = 2
  names_sorted : parameters.Pairwise fun a b => a.name.toList < b.name.toList

/-- The supplied parameters, by their names. -/
abbrev RawStrategyParameters := List (String × RawValue)

/-- `StrategyParameters`: names and values. -/
abbrev StrategyParameters := List (String × ParameterValue Decimal)

/-- `sorted(names)`. -/
def sortedNames (names : List String) : List String := sortBy String.toList names

/-- The value of a declared parameter, supplied or not. -/
def StrategyParameterSpec.valueOf (spec : StrategyParameterSpec) (supplied : Option RawValue) :
    Except StrategyError (ParameterValue Decimal) :=
  match supplied with
  | some raw => spec.normalize raw
  | none =>
    if spec.required then
      .error ⟨.strategyParameterValidation,
        "required strategy parameter is missing: " ++ spec.name⟩
    else .ok spec.default

/-- A declared parameter with its value. -/
def StrategyParameterSpec.valueFrom (spec : StrategyParameterSpec) (raw : RawStrategyParameters) :
    Except StrategyError (String × ParameterValue Decimal) := do
  let value ← spec.valueOf (raw.lookup spec.name)
  return (spec.name, value)

/-- The names that are not declared. -/
def StrategyPluginDescriptor.unknownNames (descriptor : StrategyPluginDescriptor)
    (raw : RawStrategyParameters) : List String :=
  sortedNames ((raw.map Prod.fst).filter fun name => name ∉ descriptor.parameters.map (·.name))

/-- `normalize_parameters`. -/
def StrategyPluginDescriptor.normalizeParameters (descriptor : StrategyPluginDescriptor)
    (raw : RawStrategyParameters) : Except StrategyError StrategyParameters := do
  let unknown := descriptor.unknownNames raw
  require (unknown = []) ⟨.strategyParameterValidation,
    "unknown strategy parameters: " ++ ", ".intercalate unknown⟩
  descriptor.parameters.mapM (·.valueFrom raw)

/-! ### Blanks around a text -/

/-- What has been stripped has nothing to strip. -/
theorem strip_strip (s : String) : strip (strip s) = strip s := by
  unfold strip
  rw [String.toList_ofList]
  have hprefix := List.rdropWhile_prefix isSpace (s.toList.dropWhile isSpace)
  have hhead := List.head?_dropWhile_not isSpace s.toList
  have hlast := List.rdropWhile_idempotent isSpace (s.toList.dropWhile isSpace)
  generalize hr : (s.toList.dropWhile isSpace).rdropWhile isSpace = r at hprefix hlast ⊢
  have hfirst : r.dropWhile isSpace = r := by
    cases r with
    | nil => rfl
    | cons c r =>
      obtain ⟨rest, hrest⟩ := hprefix
      rw [← hrest, List.cons_append, List.head?_cons] at hhead
      exact List.dropWhile_cons_of_neg (by simpa using hhead)
  rw [hfirst, hlast]

/-- The characters of an identifier are visible ASCII. -/
theorem visible_of_isSafeChar {c : Char} (h : isSafeChar c = true) :
    33 ≤ c.toNat ∧ c.toNat ≤ 122 := by
  change (decide (c.val ≥ 'A'.val ∧ c.val ≤ 'Z'.val) ||
    (decide (c.val ≥ 'a'.val) && decide (c.val ≤ 'z'.val)) ||
    (decide (c.val ≥ '0'.val) && decide (c.val ≤ '9'.val)) ||
    c == '.' || c == '_' || c == ':' || c == '-') = true at h
  simp only [Bool.or_eq_true, Bool.and_eq_true, decide_eq_true_eq, beq_iff_eq, ge_iff_le,
    UInt32.le_iff_toNat_le] at h
  change 33 ≤ c.val.toNat ∧ c.val.toNat ≤ 122
  rcases h with ((((((h | h) | h) | rfl) | rfl) | rfl) | rfl)
  · exact ⟨le_trans (by decide) h.1, le_trans h.2 (by decide)⟩
  · exact ⟨le_trans (by decide) h.1, le_trans h.2 (by decide)⟩
  · exact ⟨le_trans (by decide) h.1, le_trans h.2 (by decide)⟩
  all_goals decide

theorem isSpace_of_isSafeChar {c : Char} (h : isSafeChar c = true) : isSpace c = false := by
  obtain ⟨hmin, hmax⟩ := visible_of_isSafeChar h
  simp only [isSpace, Bool.or_eq_false_iff, Bool.and_eq_false_iff, decide_eq_false_iff_not,
    beq_eq_false_iff_ne]
  omega

/-- An identifier has nothing to strip. -/
theorem strip_of_isFillToken {s : String} (h : isFillToken s = true) : strip s = s := by
  have hall : ∀ c ∈ s.toList, isSpace c = false := by
    unfold isFillToken at h
    cases hs : s.toList with
    | nil => exact fun c hc => (List.not_mem_nil hc).elim
    | cons c cs =>
      simp only [hs, Bool.and_eq_true, List.all_eq_true] at h
      intro c' hc'
      rcases List.mem_cons.mp hc' with rfl | hc'
      · exact isSpace_of_isSafeChar (by simp [isSafeChar, h.1.1])
      · exact isSpace_of_isSafeChar (h.1.2 c' hc')
  have hfirst : s.toList.dropWhile isSpace = s.toList := by
    rw [List.dropWhile_eq_self_iff]
    exact fun hl => by rw [hall _ (List.getElem_mem hl)]; exact Bool.false_ne_true
  have hlast : s.toList.rdropWhile isSpace = s.toList := by
    rw [List.rdropWhile_eq_self_iff]
    exact fun hl => by rw [hall _ (List.getLast_mem hl)]; exact Bool.false_ne_true
  rw [strip, hfirst, hlast, String.ofList_toList]

/-! ### Normalized values -/

/-- A value that is checked, and normalized to itself. -/
def StrategyParameterSpec.Normal (spec : StrategyParameterSpec) (v : ParameterValue Decimal) :
    Prop := spec.normalize (.value v) = .ok v

/-- A value of a kind; a string has something in it and no blanks around it. -/
def HasKind : StrategyParameterKind → ParameterValue Decimal → Prop
  | .boolean, .bool _ => True
  | .integer, .int _ => True
  | .decimal, .decimal _ => True
  | .string, .str s => s ≠ "" ∧ strip s = s
  | _, _ => False

theorem typedValue_spec {name : String} {kind : StrategyParameterKind} {raw : RawValue}
    {v : ParameterValue Decimal} (h : typedValue name kind raw = .ok v) :
    HasKind kind v ∧ typedValue name kind (.value v) = .ok v := by
  unfold typedValue at h
  split at h <;> try cases h
  · exact ⟨trivial, rfl⟩
  · exact ⟨trivial, rfl⟩
  · exact ⟨trivial, rfl⟩
  · next s =>
    split at h
    · cases h
    · next hne =>
      cases h
      refine ⟨⟨hne, strip_strip s⟩, ?_⟩
      unfold typedValue
      dsimp only
      rw [strip_strip, if_neg hne]

theorem normalizeValue_eq_ok {name : String} {kind : StrategyParameterKind}
    {minimum maximum : Option ParameterBound} {raw : RawValue} {v : ParameterValue Decimal} :
    normalizeValue name kind minimum maximum raw = .ok v ↔
      typedValue name kind raw = .ok v ∧ validateRange name minimum maximum v = .ok () := by
  simp only [normalizeValue, bind_eq_ok, pure, Except.pure, Except.ok.injEq]
  constructor
  · rintro ⟨w, hw, _, hrange, rfl⟩
    exact ⟨hw, hrange⟩
  · rintro ⟨hv, hrange⟩
    exact ⟨v, hv, (), hrange, rfl⟩

/-- Values of one type that are equal, decimals as numbers. -/
theorem map_value_eq_iff {v v' : ParameterValue Decimal} :
    v'.map Decimal.value = v.map Decimal.value ↔
      v' = v ∨ ∃ d d', v = .decimal d ∧ v' = .decimal d' ∧ d'.value = d.value := by
  cases v <;> cases v' <;> simp [ParameterValue.map]
  rintro rfl
  rfl

section

variable {spec : StrategyParameterSpec}

/-- **Normalizing is idempotent.** -/
theorem normalize_normal {raw : RawValue} {v : ParameterValue Decimal}
    (h : spec.normalize raw = .ok v) : spec.Normal v := by
  obtain ⟨htyped, hrange⟩ := normalizeValue_eq_ok.mp h
  exact normalizeValue_eq_ok.mpr ⟨(typedValue_spec htyped).2, hrange⟩

theorem StrategyParameterSpec.Normal.hasKind {v : ParameterValue Decimal} (h : spec.Normal v) :
    HasKind spec.kind v := (typedValue_spec (normalizeValue_eq_ok.mp h).1).1

/-- Only the number of a decimal is checked, not its spelling. -/
theorem StrategyParameterSpec.Normal.of_map_eq {v v' : ParameterValue Decimal} (h : spec.Normal v)
    (heq : v'.map Decimal.value = v.map Decimal.value) : spec.Normal v' := by
  rcases map_value_eq_iff.mp heq with rfl | ⟨d, d', rfl, rfl, hvalue⟩
  · exact h
  obtain ⟨htyped, hrange⟩ := normalizeValue_eq_ok.mp h
  have hkind : spec.kind = .decimal := by
    cases hk : spec.kind <;> first | rfl | (rw [hk] at htyped; cases htyped)
  refine normalizeValue_eq_ok.mpr ⟨by rw [hkind]; rfl, ?_⟩
  unfold validateRange numberOf at hrange ⊢
  dsimp only at hrange ⊢
  rwa [hvalue]

end

/-! ### Normalized parameters -/

/-- Parameters listed as they are declared, each one checked. -/
def Normalized (descriptor : StrategyPluginDescriptor) (p : StrategyParameters) : Prop :=
  List.Forall₂ (fun spec q => q.1 = spec.name ∧ spec.Normal q.2) descriptor.parameters p

section

variable {descriptor : StrategyPluginDescriptor}

theorem StrategyPluginDescriptor.names_nodup (descriptor : StrategyPluginDescriptor) :
    (descriptor.parameters.map (·.name)).Nodup := by
  refine List.pairwise_map.mpr (descriptor.names_sorted.imp fun hlt heq => ?_)
  rw [heq] at hlt
  exact lt_irrefl _ hlt

theorem Normalized.names {p : StrategyParameters} (h : Normalized descriptor p) :
    p.map Prod.fst = descriptor.parameters.map (·.name) := by
  unfold Normalized at h
  generalize descriptor.parameters = specs at h ⊢
  induction h with
  | nil => rfl
  | cons hq h ih => rw [List.map_cons, List.map_cons, hq.1, ih]

theorem valueFrom_eq_ok {spec : StrategyParameterSpec} {raw : RawStrategyParameters}
    {q : String × ParameterValue Decimal} (h : spec.valueFrom raw = .ok q) :
    q.1 = spec.name ∧ spec.Normal q.2 := by
  simp only [StrategyParameterSpec.valueFrom, bind_eq_ok, pure, Except.pure, Except.ok.injEq] at h
  obtain ⟨v, hv, rfl⟩ := h
  refine ⟨rfl, ?_⟩
  unfold StrategyParameterSpec.valueOf at hv
  split at hv
  · exact normalize_normal hv
  · split at hv
    · cases hv
    · next hrequired =>
      cases hv
      exact spec.default_normal fun hnone => hrequired (spec.required_iff.mpr hnone)

/-- **What is returned is normalized.** -/
theorem normalizeParameters_normalized {raw : RawStrategyParameters} {p : StrategyParameters}
    (h : descriptor.normalizeParameters raw = .ok p) : Normalized descriptor p := by
  simp only [StrategyPluginDescriptor.normalizeParameters, bind_eq_ok, require_eq_ok,
    exists_const] at h
  exact (forall₂_of_mapM h.2).imp fun spec q hq => valueFrom_eq_ok hq

/-- Normalized parameters, supplied once more. -/
def supplied (p : StrategyParameters) : RawStrategyParameters := p.map fun q => (q.1, .value q.2)

theorem map_fst_supplied (p : StrategyParameters) : (supplied p).map Prod.fst = p.map Prod.fst :=
  List.map_map

theorem lookup_of_mem {α β : Type} [DecidableEq α] {l : List (α × β)}
    (hnodup : (l.map Prod.fst).Nodup) {q : α × β} (hq : q ∈ l) : l.lookup q.1 = some q.2 := by
  induction l with
  | nil => cases hq
  | cons a l ih =>
    rw [List.map_cons, List.nodup_cons] at hnodup
    rw [List.lookup_cons]
    rcases List.mem_cons.mp hq with rfl | hq
    · rw [beq_self_eq_true]
    · have hne : q.1 ≠ a.1 := fun heq => hnodup.1 (heq ▸ List.mem_map_of_mem hq)
      rw [beq_eq_false_iff_ne.mpr hne]
      exact ih hnodup.2 hq

theorem mem_of_lookup {α β : Type} [DecidableEq α] {l : List (α × β)} {a : α} {b : β}
    (h : l.lookup a = some b) : (a, b) ∈ l := by
  obtain ⟨l₁, l₂, rfl, -⟩ := List.lookup_eq_some_iff.mp h
  exact List.mem_append_right _ List.mem_cons_self

/-- **Normalized parameters are returned again.** -/
theorem Normalized.normalizeParameters_eq {p : StrategyParameters} (h : Normalized descriptor p) :
    descriptor.normalizeParameters (supplied p) = .ok p := by
  have hnames := h.names
  have hnodup : ((supplied p).map Prod.fst).Nodup := by
    rw [map_fst_supplied, hnames]
    exact descriptor.names_nodup
  have hunknown : descriptor.unknownNames (supplied p) = [] := by
    unfold StrategyPluginDescriptor.unknownNames
    rw [map_fst_supplied, hnames, List.filter_eq_nil_iff.mpr]
    · rfl
    · exact fun name hname => by simpa using hname
  have hvalues : ∀ (specs : List StrategyParameterSpec) (qs : StrategyParameters),
      (∀ q ∈ qs, q ∈ p) →
      List.Forall₂ (fun spec q => q.1 = spec.name ∧ spec.Normal q.2) specs qs →
      specs.mapM (·.valueFrom (supplied p)) = .ok qs := by
    intro specs qs hsub hall
    induction hall with
    | nil => rfl
    | @cons spec q specs qs hq hall ih =>
      refine mapM_cons_eq_ok.mpr ⟨q, qs, ?_, ih fun q' hq' => hsub q' (List.mem_cons_of_mem q hq'),
        rfl⟩
      have hmem : (q.1, RawValue.value q.2) ∈ supplied p :=
        List.mem_map_of_mem (hsub q List.mem_cons_self)
      have hlookup := lookup_of_mem hnodup hmem
      have hvalue : spec.valueOf (some (.value q.2)) = .ok q.2 := hq.2
      rw [StrategyParameterSpec.valueFrom, ← hq.1, hlookup, hvalue]
      rfl
  unfold StrategyPluginDescriptor.normalizeParameters
  dsimp only
  refine bind_eq_ok.mpr ⟨(), require_eq_ok.mpr hunknown, ?_⟩
  exact hvalues _ _ (fun q hq => hq) h

/-- **Only the values of a mapping count**, not the order they are listed in. -/
theorem normalizeParameters_congr {raw raw' : RawStrategyParameters} (h : raw.Perm raw')
    (hnodup : (raw.map Prod.fst).Nodup) :
    descriptor.normalizeParameters raw = descriptor.normalizeParameters raw' := by
  have hnodup' : (raw'.map Prod.fst).Nodup := (h.map Prod.fst).nodup_iff.mp hnodup
  have hlookup : ∀ name, raw.lookup name = raw'.lookup name := by
    intro name
    cases hname : raw.lookup name with
    | some v =>
      have hmem : (name, v) ∈ raw := mem_of_lookup hname
      exact (lookup_of_mem hnodup' (h.mem_iff.mp hmem)).symm
    | none =>
      cases hname' : raw'.lookup name with
      | none => rfl
      | some v =>
        have hmem : (name, v) ∈ raw' := mem_of_lookup hname'
        rw [lookup_of_mem hnodup (h.mem_iff.mpr hmem)] at hname
        cases hname
  have hunknown : descriptor.unknownNames raw = descriptor.unknownNames raw' := by
    refine sortBy_congr ((h.map Prod.fst).filter _) ?_
    exact (hnodup.filter _).map fun a b hab => String.toList_inj.mp hab
  unfold StrategyPluginDescriptor.normalizeParameters StrategyParameterSpec.valueFrom
  rw [hunknown]
  simp only [hlookup]

end

end Strategies
end DryTrade
