import Mathlib.Data.List.ReduceOption
import DryTrade.Strategies.Lossless
import DryTrade.Optimization.ParameterSearch

/-!
# Parameter spaces expand exactly

A space that is created does not depend on the order its names and values are listed in.  It expands
to every combination of its values, once, in the lexicographic order of their canonical keys.

## Main definitions

* `scalarKey` — the key of a value, without the checks.
* `joined` — the parameters of a choice, with the fixed values and the defaults.
* `SpaceOf` — the values of a space are those that were supplied.
* `IsExpansion` — the combinations of a space.

## Main results

* `calculateCardinality_eq_ok` — the exact product, bounded.
* `create_congr` — the order of names and values.
* `parameter_expansion_exact` — the combinations.
-/

namespace DryTrade
namespace Optimization

open Backtesting Strategies

/-! ### Keys -/

/-- The key of a value. -/
def scalarKey : ParameterValue Decimal → ℕ ×ₗ List Char
  | .none => toLex (4, [])
  | .bool b => toLex (0, if b then ['1'] else ['0'])
  | .int n => toLex (1, intText n)
  | .decimal d => toLex (2, d.text)
  | .str s => toLex (3, s.toList)

/-- The text of a value is not too long. -/
def Writable : ParameterValue Decimal → Prop
  | .int n => n.natAbs < 10 ^ maximumIntegerDigits
  | .decimal d => d.Fits
  | _ => True

/-- A value that has a canonical key. -/
def Scalar (kind : StrategyParameterKind) (v : ParameterValue Decimal) : Prop :=
  HasKind kind v ∧ Writable v

theorem integerText_eq_ok {n : ℤ} {text : List Char} :
    integerText n = .ok text ↔ n.natAbs < 10 ^ maximumIntegerDigits ∧ text = intText n := by
  unfold integerText
  split
  · next h => simp [h, eq_comm]
  · next h => simp [h]

theorem searchDecimalText_eq_ok {d : Decimal} {text : List Char} :
    searchDecimalText d = .ok text ↔ d.Fits ∧ text = d.text := by
  unfold searchDecimalText
  rw [Decimal.boundedText_eq]
  split
  · next h => simp [h, eq_comm]
  · next h => simp [h]

theorem canonicalScalarKey_eq_ok {kind : StrategyParameterKind} {v : ParameterValue Decimal}
    {key : ℕ ×ₗ List Char} :
    canonicalScalarKey kind v = .ok key ↔ Scalar kind v ∧ key = scalarKey v := by
  cases kind <;> cases v <;>
    simp only [canonicalScalarKey, Scalar, HasKind, Writable, scalarKey, bind_eq_ok,
      integerText_eq_ok, searchDecimalText_eq_ok, pure, Except.pure, Except.ok.injEq, reduceCtorEq,
      false_and, true_and, and_true]
  · exact eq_comm
  · constructor
    · rintro ⟨_, ⟨hn, rfl⟩, rfl⟩
      exact ⟨hn, rfl⟩
    · rintro ⟨hn, rfl⟩
      exact ⟨_, ⟨hn, rfl⟩, rfl⟩
  · constructor
    · rintro ⟨_, ⟨hd, rfl⟩, rfl⟩
      exact ⟨hd, rfl⟩
    · rintro ⟨hd, rfl⟩
      exact ⟨_, ⟨hd, rfl⟩, rfl⟩
  · next s =>
    by_cases h : s = "" ∨ s ≠ strip s
    · rw [if_pos h]
      refine iff_of_false (by simp) fun hand => ?_
      rcases h with h | h
      · exact hand.1.1 h
      · exact h hand.1.2.symm
    · rw [if_neg h]
      rw [not_or, not_not] at h
      simp [h.1, ← h.2, eq_comm]

theorem intText_injective : Function.Injective intText := by
  intro m n h
  refine Json.int.inj (Json.encode_injective ?_)
  rw [Json.encode, Json.encode, h]

/-- **Equal keys are keys of equal values**, decimals as numbers. -/
theorem scalarKey_eq_iff {kind : StrategyParameterKind} {v v' : ParameterValue Decimal}
    (h : HasKind kind v) (h' : HasKind kind v') :
    scalarKey v = scalarKey v' ↔ v.map Decimal.value = v'.map Decimal.value := by
  cases kind <;> cases v <;> first | exact h.elim | skip
  all_goals cases v' <;> first | exact h'.elim | skip
  · next b b' => cases b <;> cases b' <;> decide
  · simp [scalarKey, ParameterValue.map, intText_injective.eq_iff]
  · simp [scalarKey, ParameterValue.map, Decimal.text_eq_iff]
  · simp [scalarKey, ParameterValue.map, String.toList_inj]

theorem mapM_canonicalScalarKey_eq_ok {kind : StrategyParameterKind}
    {values : List (ParameterValue Decimal)} {keys : List (ℕ ×ₗ List Char)} :
    values.mapM (canonicalScalarKey kind) = .ok keys ↔
      (∀ v ∈ values, Scalar kind v) ∧ keys = values.map scalarKey := by
  constructor
  · intro h
    have hall : ∀ v ∈ values, Scalar kind v := by
      intro v hv
      obtain ⟨key, -, hkey⟩ := forall_of_mapM h v hv
      exact (canonicalScalarKey_eq_ok.mp hkey).1
    refine ⟨hall, ?_⟩
    rw [mapM_eq_map fun v hv => canonicalScalarKey_eq_ok.mpr ⟨hall v hv, rfl⟩] at h
    exact (Except.ok.inj h).symm
  · rintro ⟨hall, rfl⟩
    exact mapM_eq_map fun v hv => canonicalScalarKey_eq_ok.mpr ⟨hall v hv, rfl⟩

/-! ### Dimensions -/

/-- A searched parameter is canonical. -/
structure Dimension (parameter : SearchParameter) : Prop where
  name_safe : isFillToken parameter.name = true
  values_ne : parameter.values ≠ []
  scalar : ∀ v ∈ parameter.values, Scalar parameter.kind v
  ordered : (parameter.values.map scalarKey).Pairwise (· < ·)

theorem validateSafeToken_eq_ok {value label : String} {u : Unit} :
    validateSafeToken value label = .ok u ↔ isFillToken value = true := by
  simp only [validateSafeToken, bind_eq_ok, require_eq_ok, exists_const]
  constructor
  · exact fun h => h.2
  · intro h
    refine ⟨⟨?_, (strip_of_isFillToken h).symm⟩, h⟩
    rintro rfl
    cases h

theorem sorted_nodup_iff {α : Type} [LinearOrder α] {l : List α} :
    (l.Nodup ∧ l = sortBy id l) ↔ l.Pairwise (· < ·) := by
  constructor
  · rintro ⟨hnodup, hsorted⟩
    have h : (sortBy id l).Pairwise fun a b => id a < id b :=
      pairwise_lt_sortBy (by rwa [List.map_id])
    rw [← hsorted] at h
    exact h
  · intro h
    have hsorted : sortBy id l = l := sortBy_of_pairwise h
    exact ⟨h.imp ne_of_lt, hsorted.symm⟩

theorem validateSearchParameter_eq_ok {parameter : SearchParameter} {u : Unit} :
    validateSearchParameter parameter = .ok u ↔ Dimension parameter := by
  simp only [validateSearchParameter, bind_eq_ok, validateSafeToken_eq_ok, require_eq_ok,
    exists_const, mapM_canonicalScalarKey_eq_ok]
  constructor
  · rintro ⟨hname, hne, _, ⟨hscalar, rfl⟩, hnodup, hsorted⟩
    exact ⟨hname, hne, hscalar, sorted_nodup_iff.mp ⟨hnodup, hsorted⟩⟩
  · rintro ⟨hname, hne, hscalar, hordered⟩
    obtain ⟨hnodup, hsorted⟩ := sorted_nodup_iff.mpr hordered
    exact ⟨hname, hne, _, ⟨hscalar, rfl⟩, hnodup, hsorted⟩

/-- The number of choices. -/
def choiceCount (parameters : List SearchParameter) : ℕ :=
  (parameters.map fun parameter => parameter.values.length).prod

theorem cardinalityTurn_eq_ok {maximum cardinality n : ℕ} {parameter : SearchParameter} :
    cardinalityTurn maximum cardinality parameter = .ok n ↔ Dimension parameter ∧
      n = cardinality * parameter.values.length ∧ n ≤ maximum := by
  simp only [cardinalityTurn, bind_eq_ok, validateSearchParameter_eq_ok, require_eq_ok,
    exists_const, pure, Except.pure, Except.ok.injEq]
  constructor
  · rintro ⟨hdimension, hle, rfl⟩
    have hpos := List.length_pos_iff.mpr hdimension.values_ne
    exact ⟨hdimension, rfl, (Nat.le_div_iff_mul_le hpos).mp hle⟩
  · rintro ⟨hdimension, rfl, hle⟩
    have hpos := List.length_pos_iff.mpr hdimension.values_ne
    exact ⟨hdimension, (Nat.le_div_iff_mul_le hpos).mpr hle, rfl⟩

theorem foldlM_cardinalityTurn {maximum : ℕ} {parameters : List SearchParameter} {c n : ℕ}
    (hc : c ≤ maximum) :
    parameters.foldlM (cardinalityTurn maximum) c = .ok n ↔
      (∀ parameter ∈ parameters, Dimension parameter) ∧ n = c * choiceCount parameters ∧
        n ≤ maximum := by
  induction parameters generalizing c with
  | nil =>
    rw [List.foldlM_nil]
    simp only [pure, Except.pure, Except.ok.injEq, List.not_mem_nil, choiceCount, List.map_nil,
      List.prod_nil, mul_one]
    constructor
    · rintro rfl
      exact ⟨fun _ h => h.elim, rfl, hc⟩
    · exact fun h => h.2.1.symm
  | cons parameter parameters ih =>
    rw [List.foldlM_cons, bind_eq_ok, List.forall_mem_cons]
    have hsize : choiceCount (parameter :: parameters) =
        parameter.values.length * choiceCount parameters := List.prod_cons
    rw [hsize, ← mul_assoc]
    constructor
    · rintro ⟨c', hturn, hrest⟩
      obtain ⟨hdimension, rfl, hle⟩ := cardinalityTurn_eq_ok.mp hturn
      obtain ⟨hall, hn, hmax⟩ := (ih hle).mp hrest
      exact ⟨⟨hdimension, hall⟩, hn, hmax⟩
    · rintro ⟨⟨hdimension, hall⟩, hn, hmax⟩
      have hpos : 0 < choiceCount parameters := by
        refine List.prod_pos fun count hcount => ?_
        obtain ⟨other, hother, rfl⟩ := List.mem_map.mp hcount
        exact List.length_pos_iff.mpr (hall other hother).values_ne
      have hle : c * parameter.values.length ≤ maximum :=
        (Nat.le_mul_of_pos_right _ hpos).trans (hn ▸ hmax)
      exact ⟨_, cardinalityTurn_eq_ok.mpr ⟨hdimension, rfl, hle⟩, (ih hle).mpr ⟨hall, hn, hmax⟩⟩

theorem validateCombinationLimit_eq_ok {maximum : ℕ} {u : Unit} :
    validateCombinationLimit maximum = .ok u ↔
      1 ≤ maximum ∧ maximum ≤ absoluteMaxCombinations := by
  simp only [validateCombinationLimit, bind_eq_ok, require_eq_ok, exists_const]

/-- **The cardinality is the exact product**, and it is returned exactly when it is within the
limit. -/
theorem calculateCardinality_eq_ok {parameters : List SearchParameter} {maximum n : ℕ} :
    calculateCardinality parameters maximum = .ok n ↔
      (1 ≤ maximum ∧ maximum ≤ absoluteMaxCombinations ∧ parameters ≠ [] ∧
        ∀ parameter ∈ parameters, Dimension parameter) ∧ n = choiceCount parameters ∧ n ≤ maximum := by
  simp only [calculateCardinality, bind_eq_ok, validateCombinationLimit_eq_ok, require_eq_ok,
    exists_const]
  constructor
  · rintro ⟨⟨hpos, hmax⟩, hne, hfold⟩
    obtain ⟨hall, hn, hle⟩ := (foldlM_cardinalityTurn hpos).mp hfold
    rw [one_mul] at hn
    exact ⟨⟨hpos, hmax, hne, hall⟩, hn, hle⟩
  · rintro ⟨⟨hpos, hmax, hne, hall⟩, hn, hle⟩
    exact ⟨⟨hpos, hmax⟩, hne, (foldlM_cardinalityTurn hpos).mpr ⟨hall, by rwa [one_mul], hle⟩⟩

/-! ### Normalized values -/

theorem mapError_eq_ok {ε ε' α : Type} {x : Except ε α} {f : ε → ε'} {a : α} :
    x.mapError f = .ok a ↔ x = .ok a := by
  cases x <;> simp [Except.mapError]

section

variable {spec : StrategyParameterSpec}

theorem normalizeSearchValue_eq_ok {raw : RawValue} {v : ParameterValue Decimal} :
    normalizeSearchValue spec raw = .ok v ↔
      isScalar raw = true ∧ spec.normalize raw = .ok v ∧ Writable v := by
  simp only [normalizeSearchValue, bind_eq_ok, require_eq_ok, exists_const, mapError_eq_ok,
    canonicalScalarKey_eq_ok, pure, Except.pure, Except.ok.injEq]
  constructor
  · rintro ⟨hscalar, w, hw, -, _, ⟨hvalue, rfl⟩, rfl⟩
    exact ⟨hscalar, hw, hvalue.2⟩
  · rintro ⟨hscalar, hv, hwritable⟩
    have hkind := (normalize_normal hv).hasKind
    have hne : v ≠ .none := by
      rintro rfl
      cases hk : spec.kind <;> rw [hk] at hkind <;> exact hkind
    exact ⟨hscalar, v, hv, hne, _, ⟨⟨hkind, hwritable⟩, rfl⟩, rfl⟩

theorem scalar_of_normalizeSearchValue {raw : RawValue} {v : ParameterValue Decimal}
    (h : normalizeSearchValue spec raw = .ok v) : spec.Normal v ∧ Scalar spec.kind v := by
  obtain ⟨-, hv, hwritable⟩ := normalizeSearchValue_eq_ok.mp h
  exact ⟨normalize_normal hv, (normalize_normal hv).hasKind, hwritable⟩

/-- A map over the same elements in another order. -/
theorem mapM_perm {ε α β : Type} {f : α → Except ε β} {l l' : List α} (h : l.Perm l')
    {bs : List β} (hbs : l.mapM f = .ok bs) : ∃ bs', l'.mapM f = .ok bs' ∧ bs.Perm bs' := by
  induction h generalizing bs with
  | nil => exact ⟨bs, hbs, .refl bs⟩
  | cons a h ih =>
    obtain ⟨b, rest, hb, hrest, rfl⟩ := mapM_cons_eq_ok.mp hbs
    obtain ⟨rest', hrest', hperm⟩ := ih hrest
    exact ⟨b :: rest', mapM_cons_eq_ok.mpr ⟨b, rest', hb, hrest', rfl⟩, hperm.cons b⟩
  | swap a a' l =>
    obtain ⟨b, _, hb, htail, rfl⟩ := mapM_cons_eq_ok.mp hbs
    obtain ⟨b', rest, hb', hrest, rfl⟩ := mapM_cons_eq_ok.mp htail
    exact ⟨b' :: b :: rest, mapM_cons_eq_ok.mpr ⟨b', b :: rest, hb',
      mapM_cons_eq_ok.mpr ⟨b, rest, hb, hrest, rfl⟩, rfl⟩, .swap b' b rest⟩
  | trans _ _ ih ih' =>
    obtain ⟨bs', hbs', hperm⟩ := ih hbs
    obtain ⟨bs'', hbs'', hperm'⟩ := ih' hbs'
    exact ⟨bs'', hbs'', hperm.trans hperm'⟩

theorem zip_map_self {α β : Type} (f : α → β) (l : List α) :
    (l.map f).zip l = l.map fun a => (f a, a) := by
  induction l with
  | nil => rfl
  | cons a l ih => rw [List.map_cons, List.zip_cons_cons, ih, List.map_cons]

/-- **The values of a dimension**: those supplied, in the order of their keys. -/
theorem orderedValues_eq_ok {supplied : List RawValue} {values : List (ParameterValue Decimal)} :
    orderedValues spec supplied = .ok values ↔
      ∃ normalized, supplied.mapM (normalizeSearchValue spec) = .ok normalized ∧
        (normalized.map scalarKey).Nodup ∧ values = sortBy scalarKey normalized := by
  have hsort : ∀ normalized : List (ParameterValue Decimal),
      (sortBy Prod.fst ((normalized.map scalarKey).zip normalized)).map Prod.snd =
        sortBy scalarKey normalized := by
    intro normalized
    rw [zip_map_self]
    unfold sortBy
    rw [← List.map_insertionSort (fun a b => scalarKey a ≤ scalarKey b) _
      (fun a => (scalarKey a, a)) normalized (fun _ _ _ _ => Iff.rfl), List.map_map]
    exact List.map_id _
  simp only [orderedValues, bind_eq_ok, mapM_canonicalScalarKey_eq_ok, require_eq_ok, exists_const,
    pure, Except.pure, Except.ok.injEq]
  constructor
  · rintro ⟨normalized, hnormalized, _, ⟨-, rfl⟩, hnodup, rfl⟩
    exact ⟨normalized, hnormalized, hnodup, hsort normalized⟩
  · rintro ⟨normalized, hnormalized, hnodup, rfl⟩
    have hall : ∀ v ∈ normalized, Scalar spec.kind v := by
      intro v hv
      obtain ⟨raw, -, hraw⟩ := mem_of_mapM hnormalized hv
      exact (scalar_of_normalizeSearchValue hraw).2
    exact ⟨normalized, hnormalized, _, ⟨hall, rfl⟩, hnodup, hsort normalized⟩

/-- **The order of the supplied values does not count.** -/
theorem orderedValues_congr {supplied supplied' : List RawValue} (h : supplied.Perm supplied')
    {values : List (ParameterValue Decimal)} (hvalues : orderedValues spec supplied = .ok values) :
    orderedValues spec supplied' = .ok values := by
  obtain ⟨normalized, hnormalized, hnodup, rfl⟩ := orderedValues_eq_ok.mp hvalues
  obtain ⟨normalized', hnormalized', hperm⟩ := mapM_perm h hnormalized
  exact orderedValues_eq_ok.mpr ⟨normalized', hnormalized',
    (hperm.map scalarKey).nodup_iff.mp hnodup, sortBy_congr hperm hnodup⟩

end

/-! ### What is supplied, in another order -/

/-- The values of a dimension, in another order. -/
inductive SameDimension : RawDimension → RawDimension → Prop
  | sequence {values values' : List RawValue} (h : values.Perm values') :
      SameDimension (.sequence values) (.sequence values')
  | other : SameDimension .other .other

/-- The names and the values of a search, in another order. -/
def SameSearch (raw raw' : List (String × RawDimension)) : Prop :=
  (raw.map Prod.fst).Nodup ∧ ∃ middle, raw.Perm middle ∧
    List.Forall₂ (fun a b => a.1 = b.1 ∧ SameDimension a.2 b.2) middle raw'

theorem lookup_perm {α β : Type} [DecidableEq α] {l l' : List (α × β)} (h : l.Perm l')
    (hnodup : (l.map Prod.fst).Nodup) (a : α) : l.lookup a = l'.lookup a := by
  have hnodup' : (l'.map Prod.fst).Nodup := (h.map Prod.fst).nodup_iff.mp hnodup
  cases ha : l.lookup a with
  | some b => exact (lookup_of_mem hnodup' (h.mem_iff.mp (mem_of_lookup ha))).symm
  | none =>
    cases ha' : l'.lookup a with
    | none => rfl
    | some b =>
      rw [lookup_of_mem hnodup (h.mem_iff.mpr (mem_of_lookup ha'))] at ha
      cases ha

theorem lookup_forall₂ {α β : Type} [DecidableEq α] {R : β → β → Prop} {l l' : List (α × β)}
    (h : List.Forall₂ (fun a b => a.1 = b.1 ∧ R a.2 b.2) l l') (a : α) :
    Option.Rel R (l.lookup a) (l'.lookup a) := by
  induction h with
  | nil => exact .none
  | @cons p q l l' hpq h ih =>
    rw [List.lookup_cons, List.lookup_cons, hpq.1]
    cases a == q.1 with
    | true => exact .some hpq.2
    | false => exact ih

theorem SameSearch.lookup {raw raw' : List (String × RawDimension)} (h : SameSearch raw raw')
    (name : String) : Option.Rel SameDimension (raw.lookup name) (raw'.lookup name) := by
  obtain ⟨hnodup, middle, hperm, hsame⟩ := h
  rw [lookup_perm hperm hnodup]
  exact lookup_forall₂ hsame name

theorem SameSearch.names {raw raw' : List (String × RawDimension)} (h : SameSearch raw raw') :
    (raw.map Prod.fst).Perm (raw'.map Prod.fst) := by
  obtain ⟨-, middle, hperm, hsame⟩ := h
  refine (hperm.map Prod.fst).trans (List.Perm.of_eq ?_)
  clear hperm
  induction hsame with
  | nil => rfl
  | cons hab _ ih => rw [List.map_cons, List.map_cons, hab.1, ih]

section

variable {descriptor : StrategyPluginDescriptor}

theorem raiseUnknown_congr {names names' : List String} (h : names.Perm names')
    (hnodup : names.Nodup) : raiseUnknown descriptor names = raiseUnknown descriptor names' := by
  have hsorted : ∀ p : String → Bool,
      sortedNames (names.filter p) = sortedNames (names'.filter p) := fun p =>
    sortBy_congr (h.filter p) ((hnodup.filter p).map fun a b hab => String.toList_inj.mp hab)
  unfold raiseUnknown
  dsimp only
  rw [hsorted]

theorem normalizeFixed_congr {raw raw' : RawStrategyParameters} (h : raw.Perm raw')
    (hnodup : (raw.map Prod.fst).Nodup) :
    normalizeFixed descriptor raw = normalizeFixed descriptor raw' := by
  have hfrom : fixedFrom raw = fixedFrom raw' := by
    funext spec
    rw [fixedFrom, fixedFrom, lookup_perm h hnodup]
  unfold normalizeFixed
  rw [raiseUnknown_congr (h.map Prod.fst) hnodup, hfrom]

theorem searchFrom_congr {raw raw' : List (String × RawDimension)} (h : SameSearch raw raw')
    {spec : StrategyParameterSpec} {o : Option SearchParameter}
    (ho : searchFrom raw spec = .ok o) : searchFrom raw' spec = .ok o := by
  have hlookup := h.lookup spec.name
  unfold searchFrom at ho ⊢
  generalize raw.lookup spec.name = x at hlookup ho
  generalize raw'.lookup spec.name = y at hlookup ⊢
  cases hlookup with
  | none => exact ho
  | some hsame =>
    cases hsame with
    | other => exact ho
    | @sequence values values' hperm =>
      simp only [bind_eq_ok, require_eq_ok, exists_const] at ho ⊢
      obtain ⟨hne, ordered, hordered, hrest⟩ := ho
      exact ⟨fun hnil => hne (List.perm_nil.mp (hnil ▸ hperm)), ordered,
        orderedValues_congr hperm hordered, hrest⟩

theorem normalizeSearch_congr {raw raw' : List (String × RawDimension)} (h : SameSearch raw raw')
    {searchable : List SearchParameter} (hs : normalizeSearch descriptor raw = .ok searchable) :
    normalizeSearch descriptor raw' = .ok searchable := by
  have hnames := h.names
  simp only [normalizeSearch, bind_eq_ok, require_eq_ok, exists_const, pure, Except.pure,
    Except.ok.injEq] at hs ⊢
  obtain ⟨hne, u, hunknown, os, hos, rfl⟩ := hs
  refine ⟨?_, u, ?_, os, ?_, rfl⟩
  · rintro rfl
    exact hne (List.map_eq_nil_iff.mp (List.perm_nil.mp hnames))
  · rwa [← raiseUnknown_congr hnames h.1]
  · have hall := forall₂_of_mapM hos
    clear hos
    generalize descriptor.parameters = specs at hall ⊢
    induction hall with
    | nil => rfl
    | cons hspec _ ih => exact mapM_cons_eq_ok.mpr ⟨_, _, searchFrom_congr h hspec, ih, rfl⟩

end

/-- **The order of the names and of the values does not count.** -/
theorem create_congr {sha256 : List Char → String} {service : ParameterSearchService}
    {pluginName pluginVersion : String} {search search' : List (String × RawDimension)}
    {fixed fixed' : RawStrategyParameters} {maximum : ℕ} {space : ParameterSearchSpace}
    (hsearch : SameSearch search search') (hfixed : fixed.Perm fixed')
    (hnodup : (fixed.map Prod.fst).Nodup)
    (h : service.create sha256 pluginName pluginVersion search fixed maximum = .ok space) :
    service.create sha256 pluginName pluginVersion search' fixed' maximum = .ok space := by
  unfold ParameterSearchService.create at h ⊢
  obtain ⟨plugin, hplugin, h⟩ := bind_eq_ok.mp h
  obtain ⟨u, hlimit, h⟩ := bind_eq_ok.mp h
  obtain ⟨fixedParameters, hfixedParameters, h⟩ := bind_eq_ok.mp h
  obtain ⟨searchable, hsearchable, h⟩ := bind_eq_ok.mp h
  rw [normalizeFixed_congr hfixed hnodup] at hfixedParameters
  exact bind_eq_ok.mpr ⟨plugin, hplugin, bind_eq_ok.mpr ⟨u, hlimit,
    bind_eq_ok.mpr ⟨fixedParameters, hfixedParameters,
      bind_eq_ok.mpr ⟨searchable, normalizeSearch_congr hsearch hsearchable, h⟩⟩⟩⟩

/-! ### Spaces -/

/-- A fixed parameter has the value that was supplied for it. -/
structure FixedOf (descriptor : StrategyPluginDescriptor) (raw : RawStrategyParameters)
    (parameter : FixedParameter) (spec : StrategyParameterSpec) : Prop where
  declared : spec ∈ descriptor.parameters
  name : parameter.name = spec.name
  kind : parameter.kind = spec.kind
  supplied : ∃ value, raw.lookup spec.name = some value ∧
    spec.normalize value = .ok parameter.value
  scalar : Scalar spec.kind parameter.value

/-- A searched parameter has the values that were supplied for it. -/
structure SearchedOf (descriptor : StrategyPluginDescriptor) (raw : List (String × RawDimension))
    (parameter : SearchParameter) (spec : StrategyParameterSpec) : Prop where
  declared : spec ∈ descriptor.parameters
  name : parameter.name = spec.name
  kind : parameter.kind = spec.kind
  supplied : ∃ values normalized, raw.lookup spec.name = some (.sequence values) ∧
    List.Forall₂ (fun value v => spec.normalize value = .ok v) values normalized ∧
    parameter.values.Perm normalized
  dimension : Dimension parameter

/-- The values of a space are those that were supplied. -/
structure SpaceOf (descriptor : StrategyPluginDescriptor) (search : List (String × RawDimension))
    (fixed : RawStrategyParameters) (space : ParameterSearchSpace) : Prop where
  fixedNames : space.fixedParameters.map (·.name) =
    (descriptor.parameters.map (·.name)).filter fun name => name ∈ fixed.map Prod.fst
  searchNames : space.searchParameters.map (·.name) =
    (descriptor.parameters.map (·.name)).filter fun name => name ∈ search.map Prod.fst
  declaredNames : ∀ name ∈ fixed.map Prod.fst ++ search.map Prod.fst,
    name ∈ descriptor.parameters.map (·.name)
  fixedOf : ∀ parameter ∈ space.fixedParameters, ∃ spec, FixedOf descriptor fixed parameter spec
  searchedOf : ∀ parameter ∈ space.searchParameters,
    ∃ spec, SearchedOf descriptor search parameter spec
  disjoint : ∀ name ∈ space.fixedParameters.map (·.name),
    name ∉ space.searchParameters.map (·.name)
  cardinality : space.cardinality = choiceCount space.searchParameters

theorem lookup_eq_none_iff {α β : Type} [DecidableEq α] {l : List (α × β)} {a : α} :
    l.lookup a = none ↔ a ∉ l.map Prod.fst := by
  rw [List.lookup_eq_none_iff]
  constructor
  · intro h hmem
    obtain ⟨q, hq, rfl⟩ := List.mem_map.mp hmem
    exact bne_iff_ne.mp (h q hq) rfl
  · exact fun h q hq => bne_iff_ne.mpr fun heq => h (heq ▸ List.mem_map_of_mem hq)

section

variable {descriptor : StrategyPluginDescriptor}

theorem raiseUnknown_eq_ok {names : List String} {u : Unit} :
    raiseUnknown descriptor names = .ok u ↔
      ∀ name ∈ names, name ∈ descriptor.parameters.map (·.name) := by
  unfold raiseUnknown sortedNames
  dsimp only
  rw [require_eq_ok, sortBy_eq_nil_iff, List.filter_eq_nil_iff]
  simp only [decide_eq_true_eq, not_not]

theorem fixedFrom_eq_ok {raw : RawStrategyParameters} {spec : StrategyParameterSpec}
    (hspec : spec ∈ descriptor.parameters) {o : Option FixedParameter}
    (h : fixedFrom raw spec = .ok o) :
    (o = none ∧ spec.name ∉ raw.map Prod.fst) ∨ spec.name ∈ raw.map Prod.fst ∧
      ∃ parameter, o = some parameter ∧ parameter.name = spec.name ∧
        FixedOf descriptor raw parameter spec := by
  unfold fixedFrom at h
  cases hlookup : raw.lookup spec.name with
  | none =>
    rw [hlookup] at h
    cases h
    exact .inl ⟨rfl, lookup_eq_none_iff.mp hlookup⟩
  | some supplied =>
    rw [hlookup] at h
    simp only [bind_eq_ok, pure, Except.pure, Except.ok.injEq] at h
    obtain ⟨value, hvalue, _, -, rfl⟩ := h
    obtain ⟨-, hnormalize, -⟩ := normalizeSearchValue_eq_ok.mp hvalue
    exact .inr ⟨List.mem_map_of_mem (mem_of_lookup hlookup), _, rfl, rfl,
      ⟨hspec, rfl, rfl, ⟨supplied, hlookup, hnormalize⟩,
        (scalar_of_normalizeSearchValue hvalue).2⟩⟩

theorem searchFrom_eq_ok {raw : List (String × RawDimension)} {spec : StrategyParameterSpec}
    (hspec : spec ∈ descriptor.parameters) {o : Option SearchParameter}
    (h : searchFrom raw spec = .ok o) :
    (o = none ∧ spec.name ∉ raw.map Prod.fst) ∨ spec.name ∈ raw.map Prod.fst ∧
      ∃ parameter, o = some parameter ∧ parameter.name = spec.name ∧
        SearchedOf descriptor raw parameter spec := by
  unfold searchFrom at h
  cases hlookup : raw.lookup spec.name with
  | none =>
    rw [hlookup] at h
    cases h
    exact .inl ⟨rfl, lookup_eq_none_iff.mp hlookup⟩
  | some dimension =>
    rw [hlookup] at h
    cases dimension with
    | other => cases h
    | sequence supplied =>
      simp only [bind_eq_ok, require_eq_ok, exists_const, validateSearchParameter_eq_ok, pure,
        Except.pure, Except.ok.injEq] at h
      obtain ⟨-, values, hvalues, hdimension, rfl⟩ := h
      obtain ⟨normalized, hnormalized, -, hsorted⟩ := orderedValues_eq_ok.mp hvalues
      have hall := (forall₂_of_mapM hnormalized).imp fun value v hv =>
        (normalizeSearchValue_eq_ok.mp hv).2.1
      exact .inr ⟨List.mem_map_of_mem (mem_of_lookup hlookup), _, rfl, rfl,
        ⟨hspec, rfl, rfl, ⟨supplied, normalized, hlookup, hall, hsorted ▸ sortBy_perm normalized⟩,
          hdimension⟩⟩

/-- The parameters that are supplied, of all that are declared. -/
theorem reduceOption_spec {α : Type} (name : α → String) {names : List String}
    {P : α → StrategyParameterSpec → Prop}
    {f : StrategyParameterSpec → Except SearchError (Option α)}
    {specs : List StrategyParameterSpec}
    (hf : ∀ spec ∈ specs, ∀ o, f spec = .ok o → (o = none ∧ spec.name ∉ names) ∨
      spec.name ∈ names ∧ ∃ a, o = some a ∧ name a = spec.name ∧ P a spec)
    {os : List (Option α)} (hos : specs.mapM f = .ok os) :
    os.reduceOption.map name = (specs.map (·.name)).filter (fun n => n ∈ names) ∧
      ∀ a ∈ os.reduceOption, ∃ spec, P a spec := by
  have hall := forall₂_of_mapM hos
  clear hos
  induction hall with
  | nil => exact ⟨rfl, fun a ha => (List.not_mem_nil ha).elim⟩
  | @cons spec o specs os ho _ ih =>
    obtain ⟨hnames, hmem⟩ := ih fun s hs => hf s (List.mem_cons_of_mem spec hs)
    rcases hf spec List.mem_cons_self o ho with ⟨rfl, hnot⟩ | ⟨hin, a, rfl, hname, ha⟩
    · rw [List.reduceOption_cons_of_none, List.map_cons,
        List.filter_cons_of_neg (by simpa using hnot)]
      exact ⟨hnames, hmem⟩
    · rw [List.reduceOption_cons_of_some, List.map_cons, List.map_cons,
        List.filter_cons_of_pos (by simpa using hin), hnames, hname]
      refine ⟨rfl, fun b hb => ?_⟩
      rcases List.mem_cons.mp hb with rfl | hb
      · exact ⟨spec, ha⟩
      · exact hmem b hb

end

section

variable {sha256 : List Char → String} {service : ParameterSearchService}

/-- What creating a space has computed. -/
structure Created (sha256 : List Char → String) (service : ParameterSearchService)
    (plugin : StrategyPlugin) (space : ParameterSearchSpace)
    (combinations : List ParameterCombination) : Prop where
  resolved : service.registry.resolve space.pluginName space.pluginVersion = .ok plugin
  schemaVersion : space.pluginSchemaVersion = plugin.descriptor.schemaVersion
  lifecycleVersion : space.pluginLifecycleVersion = plugin.descriptor.lifecycleVersion
  valid : ∃ n, validateSearchSpaceStructure space = .ok n
  payload : ∃ payload, spacePayload plugin.descriptor space.fixedParameters
    space.searchParameters space.cardinality space.maxCombinations = .ok payload ∧
      space.checksum = sha256 payload.encode ∧ space.searchSpaceId = spaceIdOf sha256 payload
  combinations : service.combinationsOf sha256 space = .ok combinations

theorem create_eq_ok {pluginName pluginVersion : String} {search : List (String × RawDimension)}
    {fixed : RawStrategyParameters} {maximum : ℕ} {space : ParameterSearchSpace}
    (h : service.create sha256 pluginName pluginVersion search fixed maximum = .ok space) :
    ∃ plugin combinations, service.registry.resolve pluginName pluginVersion = .ok plugin ∧
      SpaceOf plugin.descriptor search fixed space ∧
      Created sha256 service plugin space combinations := by
  simp only [ParameterSearchService.create, ofStrategy, bind_eq_ok, mapError_eq_ok,
    validateCombinationLimit_eq_ok, require_eq_ok, exists_const, calculateCardinality_eq_ok, pure,
    Except.pure, Except.ok.injEq] at h
  obtain ⟨plugin, hplugin, -, fixedParameters, hfixed, searchable, hsearch, hoverlap, cardinality,
    ⟨-, hcardinality, -⟩, payload, hpayload, n, hvalid, combinations, hcombinations, hspace⟩ := h
  simp only [normalizeFixed, bind_eq_ok, raiseUnknown_eq_ok, exists_const, pure, Except.pure,
    Except.ok.injEq] at hfixed
  simp only [normalizeSearch, bind_eq_ok, require_eq_ok, raiseUnknown_eq_ok, exists_const, pure,
    Except.pure, Except.ok.injEq] at hsearch
  obtain ⟨hknown, fs, hfs, rfl⟩ := hfixed
  obtain ⟨-, hknown', ss, hss, rfl⟩ := hsearch
  obtain ⟨hfixedNames, hfixedOf⟩ := reduceOption_spec FixedParameter.name
    (fun spec hspec o ho => fixedFrom_eq_ok hspec ho) hfs
  obtain ⟨hsearchNames, hsearchedOf⟩ := reduceOption_spec SearchParameter.name
    (fun spec hspec o ho => searchFrom_eq_ok hspec ho) hss
  subst hspace
  refine ⟨plugin, combinations, hplugin, ⟨hfixedNames, hsearchNames, ?_, hfixedOf, hsearchedOf,
    ?_, hcardinality⟩, ⟨resolve_again hplugin, rfl, rfl, ⟨n, hvalid⟩, ⟨payload, hpayload, rfl, rfl⟩,
      hcombinations⟩⟩
  · intro name hname
    rcases List.mem_append.mp hname with hname | hname
    · exact hknown name hname
    · exact hknown' name hname
  · unfold overlapOf sortedNames at hoverlap
    rw [sortBy_eq_nil_iff, List.filter_eq_nil_iff] at hoverlap
    exact fun name hname hin => hoverlap name hname (decide_eq_true hin)

end

/-! ### Choices -/

section

variable {descriptor : StrategyPluginDescriptor} {space : ParameterSearchSpace}
  {search : List (String × RawDimension)} {fixed : RawStrategyParameters}

/-- The values of a space. -/
def dimensions (space : ParameterSearchSpace) : List (List (ParameterValue Decimal)) :=
  space.searchParameters.map (·.values)

/-- The values that are chosen, and those that are fixed. -/
def assigned (space : ParameterSearchSpace) (choice : List (ParameterValue Decimal)) :
    StrategyParameters :=
  (space.searchParameters.map (·.name)).zip choice ++
    space.fixedParameters.map fun item => (item.name, item.value)

/-- The parameters of a choice, with the fixed values and the defaults. -/
def joined (descriptor : StrategyPluginDescriptor) (space : ParameterSearchSpace)
    (choice : List (ParameterValue Decimal)) : StrategyParameters :=
  descriptor.parameters.map fun spec =>
    (spec.name, ((assigned space choice).lookup spec.name).getD spec.default)

theorem rawCombination_eq (space : ParameterSearchSpace)
    (choice : List (ParameterValue Decimal)) :
    rawCombination space choice = supplied (assigned space choice) := by
  unfold rawCombination supplied assigned
  rw [List.map_append, List.map_map (l := space.fixedParameters)]
  rfl

theorem lookup_supplied (p : StrategyParameters) (name : String) :
    (supplied p).lookup name = (p.lookup name).map .value := by
  induction p with
  | nil => rfl
  | cons q p ih =>
    rw [supplied, List.map_cons, List.lookup_cons, List.lookup_cons]
    cases name == q.1 with
    | true => rfl
    | false => exact ih

theorem eq_of_name_eq {spec spec' : StrategyParameterSpec} (h : spec ∈ descriptor.parameters)
    (h' : spec' ∈ descriptor.parameters) (hname : spec.name = spec'.name) : spec = spec' :=
  List.inj_on_of_nodup_map descriptor.names_nodup h h' hname

theorem mem_zip_of_choice {parameters : List SearchParameter}
    {choice : List (ParameterValue Decimal)}
    (h : List.Forall₂ (· ∈ ·) choice (parameters.map (·.values)))
    {q : String × ParameterValue Decimal} (hq : q ∈ (parameters.map (·.name)).zip choice) :
    ∃ parameter ∈ parameters, parameter.name = q.1 ∧ q.2 ∈ parameter.values := by
  induction parameters generalizing choice with
  | nil => cases hq
  | cons parameter parameters ih =>
    rw [List.map_cons] at h hq
    cases h with
    | cons hv hrest =>
      rw [List.zip_cons_cons] at hq
      rcases List.mem_cons.mp hq with rfl | hq
      · exact ⟨parameter, List.mem_cons_self, rfl, hv⟩
      · obtain ⟨other, hother, hname, hmem⟩ := ih hrest hq
        exact ⟨other, List.mem_cons_of_mem _ hother, hname, hmem⟩

theorem SearchedOf.normal {parameter : SearchParameter} {spec : StrategyParameterSpec}
    (h : SearchedOf descriptor search parameter spec) {v : ParameterValue Decimal}
    (hv : v ∈ parameter.values) : spec.Normal v := by
  obtain ⟨values, normalized, -, hall, hperm⟩ := h.supplied
  obtain ⟨i, hi⟩ := List.mem_iff_getElem?.mp (hperm.mem_iff.mp hv)
  obtain ⟨raw, -, hraw⟩ := exists_of_forall₂ hall hi
  exact normalize_normal hraw

/-- What is assigned to a parameter is a value of it. -/
theorem normal_of_lookup (hspace : SpaceOf descriptor search fixed space)
    {choice : List (ParameterValue Decimal)} (hchoice : choice ∈ product (dimensions space))
    {spec : StrategyParameterSpec} (hspec : spec ∈ descriptor.parameters)
    {v : ParameterValue Decimal} (hv : (assigned space choice).lookup spec.name = some v) :
    spec.Normal v := by
  rcases List.mem_append.mp (mem_of_lookup hv) with hmem | hmem
  · obtain ⟨parameter, hparameter, hname, hvalue⟩ :=
      mem_zip_of_choice (mem_product_iff.mp hchoice) hmem
    obtain ⟨spec', hsearched⟩ := hspace.searchedOf parameter hparameter
    have heq : spec' = spec :=
      eq_of_name_eq hsearched.declared hspec (hsearched.name.symm.trans hname)
    exact heq ▸ hsearched.normal hvalue
  · obtain ⟨parameter, hparameter, heq⟩ := List.mem_map.mp hmem
    obtain ⟨spec', hfixed⟩ := hspace.fixedOf parameter hparameter
    obtain ⟨hname, rfl⟩ := Prod.mk.inj heq
    have heq' : spec' = spec :=
      eq_of_name_eq hfixed.declared hspec (hfixed.name.symm.trans hname)
    obtain ⟨raw, -, hraw⟩ := hfixed.supplied
    exact heq' ▸ normalize_normal hraw

/-- **A raw combination is normalized to the parameters of its choice.** -/
theorem normalizeParameters_rawCombination (hspace : SpaceOf descriptor search fixed space)
    {choice : List (ParameterValue Decimal)} (hchoice : choice ∈ product (dimensions space))
    {p : StrategyParameters}
    (h : descriptor.normalizeParameters (rawCombination space choice) = .ok p) :
    p = joined descriptor space choice := by
  simp only [StrategyPluginDescriptor.normalizeParameters, bind_eq_ok, require_eq_ok,
    exists_const] at h
  have hall : ∀ spec ∈ descriptor.parameters, ∀ q,
      spec.valueFrom (rawCombination space choice) = .ok q →
        q = (spec.name, ((assigned space choice).lookup spec.name).getD spec.default) := by
    intro spec hspec q hq
    simp only [StrategyParameterSpec.valueFrom, rawCombination_eq, lookup_supplied, bind_eq_ok,
      pure, Except.pure, Except.ok.injEq] at hq
    obtain ⟨w, hw, rfl⟩ := hq
    cases hlookup : (assigned space choice).lookup spec.name with
    | none =>
      rw [hlookup] at hw
      simp only [StrategyParameterSpec.valueOf, Option.map_none] at hw
      split at hw
      · cases hw
      · cases hw
        rfl
    | some v =>
      rw [hlookup] at hw
      have hnormal : spec.normalize (.value v) = .ok v :=
        normal_of_lookup hspace hchoice hspec hlookup
      have hsame : spec.normalize (.value v) = .ok w := hw
      rw [hnormal] at hsame
      cases hsame
      rfl
  have hforall := forall₂_of_mapM h.2
  clear h
  unfold joined
  generalize descriptor.parameters = specs at hall hforall ⊢
  induction hforall with
  | nil => rfl
  | @cons spec q specs qs hq _ ih =>
    rw [List.map_cons, hall spec List.mem_cons_self q hq,
      ih fun s hs => hall s (List.mem_cons_of_mem spec hs)]

end

/-! ### Combinations -/

/-- A value of the type of a kind. -/
def HasType : StrategyParameterKind → ParameterValue Decimal → Prop
  | .boolean, .bool _ => True
  | .integer, .int _ => True
  | .decimal, .decimal _ => True
  | .string, .str _ => True
  | _, _ => False

theorem hasType_of_hasKind {kind : StrategyParameterKind} {v : ParameterValue Decimal}
    (h : HasKind kind v) : HasType kind v := by
  cases kind <;> cases v <;> trivial

/-- Values of one type that compare equal are equal, decimals as numbers. -/
theorem map_value_of_comparedValue {kind : StrategyParameterKind} {v w : ParameterValue Decimal}
    (hv : HasType kind v) (hw : HasType kind w) (h : comparedValue v = comparedValue w) :
    v.map Decimal.value = w.map Decimal.value := by
  cases kind <;> cases v <;> first | exact hv.elim | skip
  all_goals cases w <;> first | exact hw.elim | skip
  · next b b' => cases b <;> cases b' <;> first | rfl | simp [comparedValue] at h
  · simpa [comparedValue, ParameterValue.map] using h
  · simpa [comparedValue, ParameterValue.map] using h
  · simpa [comparedValue, ParameterValue.map] using h

section

variable {descriptor : StrategyPluginDescriptor}

theorem specOf_eq_ok {name : String} {spec : StrategyParameterSpec}
    (h : descriptor.specOf name = .ok spec) :
    spec ∈ descriptor.parameters ∧ spec.name = name := by
  unfold StrategyPluginDescriptor.specOf at h
  split at h
  · next found hfound =>
    cases h
    have hname := List.find?_some hfound
    exact ⟨List.mem_of_find?_eq_some hfound, beq_iff_eq.mp hname⟩
  · cases h

/-- Only values of the declared types are stored. -/
theorem hasType_of_storedEntry {q : String × ParameterValue Decimal}
    {item : StoredStrategyParameter} (h : descriptor.storedEntry q = .ok item) :
    ∃ spec ∈ descriptor.parameters, spec.name = q.1 ∧ HasType spec.kind q.2 := by
  unfold StrategyPluginDescriptor.storedEntry at h
  obtain ⟨spec, hspec, h⟩ := bind_eq_ok.mp h
  obtain ⟨stored, hstored, h⟩ := bind_eq_ok.mp h
  obtain ⟨hmem, hname⟩ := specOf_eq_ok hspec
  refine ⟨spec, hmem, hname, ?_⟩
  have hvalid : validStored spec.kind stored = true := by
    unfold StoredStrategyParameter.construct at h
    split at h
    · split at h
      · next hvalid => exact hvalid
      · cases h
    · cases h
  revert hstored hvalid
  generalize spec.kind = kind
  generalize q.2 = v
  intro hstored hvalid
  cases kind <;> cases v <;> first
    | exact True.intro
    | (cases hstored <;> cases hvalid)

/-- What the factory returned has the numbers that were asked for. -/
theorem numbers_of_compared {qs p : StrategyParameters} (hp : Normalized descriptor p)
    (hcompared : (qs.map fun q => (q.1, comparedValue q.2)) =
      p.map fun q => (q.1, comparedValue q.2))
    {doc : StrategyParameterDocument} (hdoc : encodeStrategyParameters descriptor qs = .ok doc) :
    numbers qs = numbers p := by
  simp only [encodeStrategyParameters, bind_eq_ok, require_eq_ok, exists_const] at hdoc
  have htypes : ∀ q ∈ qs, ∃ spec ∈ descriptor.parameters, spec.name = q.1 ∧
      HasType spec.kind q.2 := by
    intro q hq
    obtain ⟨item, -, hitem⟩ := forall_of_mapM hdoc.2 q hq
    exact hasType_of_storedEntry hitem
  have hkinds : ∀ r ∈ p, ∃ spec ∈ descriptor.parameters, spec.name = r.1 ∧
      HasType spec.kind r.2 := by
    intro r hr
    obtain ⟨i, hi⟩ := List.mem_iff_getElem?.mp hr
    obtain ⟨spec, hspec, hname, hnormal⟩ := exists_of_forall₂ hp hi
    exact ⟨spec, List.mem_of_getElem? hspec, hname.symm, hasType_of_hasKind hnormal.hasKind⟩
  clear hdoc hp
  unfold numbers
  induction qs generalizing p with
  | nil =>
    rw [List.map_nil, eq_comm, List.map_eq_nil_iff] at hcompared
    rw [hcompared]
  | cons q qs ih =>
    cases p with
    | nil => cases hcompared
    | cons r p =>
      rw [List.map_cons, List.map_cons, List.cons.injEq, Prod.mk.injEq] at hcompared
      obtain ⟨⟨hname, hvalue⟩, hrest⟩ := hcompared
      obtain ⟨spec, hspec, hspecName, htype⟩ := htypes q List.mem_cons_self
      obtain ⟨spec', hspec', hspecName', hkind⟩ := hkinds r List.mem_cons_self
      have heq : spec = spec' :=
        eq_of_name_eq hspec hspec' (hspecName.trans (hname.trans hspecName'.symm))
      subst heq
      rw [List.map_cons, List.map_cons, hname, map_value_of_comparedValue htype hkind hvalue,
        ih hrest (fun q' hq' => htypes q' (List.mem_cons_of_mem q hq'))
          fun r' hr' => hkinds r' (List.mem_cons_of_mem r hr')]

end

section

variable {sha256 : List Char → String} {service : ParameterSearchService}
  {plugin : StrategyPlugin} {space : ParameterSearchSpace}

/-- **What a combination is**: the numbers of the normalized parameters, under its index. -/
theorem buildCombination_eq_ok
    (hresolve : service.registry.resolve space.pluginName space.pluginVersion = .ok plugin)
    {indexed : RawStrategyParameters × ℕ} {c : ParameterCombination}
    (h : service.buildCombination sha256 space indexed = .ok c) :
    ∃ p, plugin.descriptor.normalizeParameters indexed.1 = .ok p ∧
      numbers c.parameters = numbers p ∧ c.index = indexed.2 ∧
      c.combinationId = combinationIdOf sha256 space.searchSpaceId c.index c.parametersChecksum ∧
      validateParameterCombinationStructure sha256 c = .ok () := by
  simp only [ParameterSearchService.buildCombination, ofStrategy, hresolve, bind_eq_ok,
    mapError_eq_ok, require_eq_ok, exists_const, pure, Except.pure, Except.ok.injEq] at h
  obtain ⟨strategy, hstrategy, _, rfl, -, doc, hdoc, checksum, -, _, hvalid, rfl⟩ := h
  obtain ⟨p, hp, hcompared⟩ := build_eq_ok hresolve hstrategy
  exact ⟨p, hp, numbers_of_compared (normalizeParameters_normalized hp) hcompared hdoc, rfl, rfl,
    hvalid⟩

end

/-! ### Expansions -/

theorem map_eq_map_of_forall₂ {α β γ : Type} {R : α → β → Prop} {f : α → γ} {g : β → γ}
    {l : List α} {l' : List β} (h : List.Forall₂ R l l') (hR : ∀ a ∈ l, ∀ b, R a b → f a = g b) :
    l.map f = l'.map g := by
  induction h with
  | nil => rfl
  | @cons a b l l' hab _ ih =>
    rw [List.map_cons, List.map_cons, hR a List.mem_cons_self b hab,
      ih fun a' ha' => hR a' (List.mem_cons_of_mem a ha')]

/-- A chosen value is assigned to the parameter it was chosen for. -/
theorem lookup_assigned {space : ParameterSearchSpace}
    (hnodup : (space.searchParameters.map (·.name)).Nodup)
    {choice : List (ParameterValue Decimal)}
    (hlength : choice.length = space.searchParameters.length) {i : ℕ} (hi : i < choice.length)
    (hi' : i < space.searchParameters.length) :
    (assigned space choice).lookup space.searchParameters[i].name = some choice[i] := by
  have hnames : ((space.searchParameters.map (·.name)).zip choice).map Prod.fst =
      space.searchParameters.map (·.name) :=
    List.map_fst_zip (by rw [List.length_map, hlength])
  have hmem : (space.searchParameters[i].name, choice[i]) ∈
      (space.searchParameters.map (·.name)).zip choice := by
    refine List.mem_iff_getElem.mpr ⟨i, ?_, ?_⟩
    · rw [List.length_zip, List.length_map]
      omega
    · rw [List.getElem_zip, List.getElem_map]
  have hzip := lookup_of_mem (by rwa [hnames]) hmem
  unfold assigned
  rw [List.lookup_append, hzip]
  rfl

/-- The numbers of a choice determine its keys. -/
theorem keys_of_numbers {descriptor : StrategyPluginDescriptor} {space : ParameterSearchSpace}
    {search : List (String × RawDimension)} {fixed : RawStrategyParameters}
    (hspace : SpaceOf descriptor search fixed space)
    {choice choice' : List (ParameterValue Decimal)}
    (hchoice : choice ∈ product (dimensions space))
    (hchoice' : choice' ∈ product (dimensions space))
    (h : numbers (joined descriptor space choice) = numbers (joined descriptor space choice')) :
    choice.map scalarKey = choice'.map scalarKey := by
  have hall := mem_product_iff.mp hchoice
  have hall' := mem_product_iff.mp hchoice'
  have hlength := hall.length_eq
  have hlength' := hall'.length_eq
  unfold dimensions at hlength hlength'
  rw [List.length_map] at hlength hlength'
  have hnodup : (space.searchParameters.map (·.name)).Nodup := by
    rw [hspace.searchNames]
    exact descriptor.names_nodup.filter _
  unfold numbers joined at h
  rw [List.map_map, List.map_map, List.map_inj_left] at h
  refine List.ext_getElem (by rw [List.length_map, List.length_map, hlength, hlength']) ?_
  intro i hi hi'
  rw [List.length_map] at hi hi'
  have hbound : i < space.searchParameters.length := by omega
  obtain ⟨spec, hsearched⟩ := hspace.searchedOf _ (List.getElem_mem hbound)
  have hvalue := (Prod.mk.inj (h spec hsearched.declared)).2
  dsimp only at hvalue
  rw [← hsearched.name, lookup_assigned hnodup hlength hi hbound,
    lookup_assigned hnodup hlength' hi' hbound, Option.getD_some, Option.getD_some] at hvalue
  have hmem : ∀ {picks : List (ParameterValue Decimal)}
      (hc : List.Forall₂ (· ∈ ·) picks (dimensions space)) (hi : i < picks.length),
      HasKind spec.kind picks[i] := by
    intro picks hc hi
    have hbound' : i < (dimensions space).length := hc.length_eq ▸ hi
    have hin := (List.forall₂_iff_get.mp hc).2 i hi hbound'
    have hdimension : (dimensions space).get ⟨i, hbound'⟩ = space.searchParameters[i].values := by
      unfold dimensions
      rw [List.get_eq_getElem, List.getElem_map]
    rw [hdimension] at hin
    exact (hsearched.normal hin).hasKind
  rw [List.getElem_map, List.getElem_map]
  exact (scalarKey_eq_iff (hmem hall hi) (hmem hall' hi')).mpr hvalue

/-- The combinations of a space. -/
structure IsExpansion (sha256 : List Char → String) (descriptor : StrategyPluginDescriptor)
    (space : ParameterSearchSpace) (combinations : List ParameterCombination) : Prop where
  indexes : combinations.map (·.index) = List.range space.cardinality
  parameters : combinations.map (fun c => numbers c.parameters) =
    (product (dimensions space)).map fun choice => numbers (joined descriptor space choice)
  ordered : ((product (dimensions space)).map (List.map scalarKey)).Pairwise (· < ·)
  distinct : (combinations.map fun c => numbers c.parameters).Nodup
  identifiers : Function.Injective sha256 → (combinations.map (·.combinationId)).Nodup
  valid : ∀ c ∈ combinations, validateParameterCombination sha256 c space = .ok ()

section

variable {sha256 : List Char → String} {service : ParameterSearchService}
  {plugin : StrategyPlugin} {space : ParameterSearchSpace}
  {search : List (String × RawDimension)} {fixed : RawStrategyParameters}

/-- The choices are in lexicographic order. -/
theorem ordered_choices {descriptor : StrategyPluginDescriptor}
    (hspace : SpaceOf descriptor search fixed space) :
    ((product (dimensions space)).map (List.map scalarKey)).Pairwise (· < ·) := by
  rw [← product_map]
  refine pairwise_product fun keys hkeys => ?_
  obtain ⟨values, hvalues, rfl⟩ := List.mem_map.mp hkeys
  obtain ⟨parameter, hparameter, rfl⟩ := List.mem_map.mp hvalues
  obtain ⟨spec, hsearched⟩ := hspace.searchedOf parameter hparameter
  exact hsearched.dimension.ordered

theorem combinationId_injective (hsha256 : Function.Injective sha256) {id : String} {i i' : ℕ}
    {checksum checksum' : String}
    (h : combinationIdOf sha256 id i checksum = combinationIdOf sha256 id i' checksum') :
    i = i' := by
  have htext := hsha256 h
  have hpayload := Json.encode_injective (List.cons.inj (List.append_cancel_left htext)).2
  simp only [combinationPayload, Json.obj.injEq, List.cons.injEq, Prod.mk.injEq, Json.int.injEq,
    true_and] at hpayload
  exact_mod_cast hpayload.1

/-- **A space that was created expands**, to every choice once. -/
theorem Created.expansion {combinations : List ParameterCombination}
    (h : Created sha256 service plugin space combinations)
    (hspace : SpaceOf plugin.descriptor search fixed space) :
    service.expand sha256 space = .ok combinations ∧
      IsExpansion sha256 plugin.descriptor space combinations := by
  have hcombinations := h.combinations
  unfold ParameterSearchService.combinationsOf at hcombinations
  have hall := forall₂_of_mapM hcombinations
  have hcount : (rawCombinations space).length = space.cardinality := by
    rw [rawCombinations, List.length_map, length_product, hspace.cardinality, choiceCount,
      List.map_map]
    rfl
  have hlength : combinations.length = space.cardinality := by
    rw [← hall.length_eq, List.length_zipIdx, hcount]
  have hindexes : combinations.map (·.index) = List.range space.cardinality := by
    have hsnd : combinations.map (·.index) = (rawCombinations space).zipIdx.map Prod.snd := by
      refine (map_eq_map_of_forall₂ hall fun indexed _ c hc => ?_).symm
      obtain ⟨p, -, -, hindex, -⟩ := buildCombination_eq_ok h.resolved hc
      exact hindex.symm
    rw [hsnd, List.zipIdx_map_snd, hcount, List.range_eq_range']
  have hparameters : combinations.map (fun c => numbers c.parameters) =
      (product (dimensions space)).map fun choice =>
        numbers (joined plugin.descriptor space choice) := by
    have hraw : (rawCombinations space).zipIdx =
        (product (dimensions space)).zipIdx.map fun q => (rawCombination space q.1, q.2) := by
      unfold rawCombinations
      rw [List.zipIdx_map]
      rfl
    rw [hraw, List.forall₂_map_left_iff] at hall
    have hfst := map_eq_map_of_forall₂ (f := fun q => numbers (joined plugin.descriptor space q.1))
      (g := fun c => numbers c.parameters) hall fun q hq c hc => by
        obtain ⟨p, hp, hnumbers, -⟩ := buildCombination_eq_ok h.resolved hc
        have hchoice : q.1 ∈ product (dimensions space) := List.fst_mem_of_mem_zipIdx hq
        rw [hnumbers, normalizeParameters_rawCombination hspace hchoice hp]
    rw [← hfst]
    conv_rhs => rw [← List.zipIdx_map_fst 0 (product (dimensions space)), List.map_map]
    rfl
  have hordered := ordered_choices hspace
  have hdistinct : (combinations.map fun c => numbers c.parameters).Nodup := by
    rw [hparameters]
    refine List.pairwise_map.mpr ?_
    refine (List.pairwise_map.mp hordered).imp_of_mem fun {choice choice'} hc hc' hlt heq => ?_
    rw [keys_of_numbers hspace hc hc' heq] at hlt
    exact lt_irrefl _ hlt
  obtain ⟨n, hvalid⟩ := h.valid
  have hcombination : ∀ c ∈ combinations,
      c.combinationId =
        combinationIdOf sha256 space.searchSpaceId c.index c.parametersChecksum ∧
      validateParameterCombination sha256 c space = .ok () := by
    intro c hc
    obtain ⟨indexed, -, hindexed⟩ := mem_of_mapM hcombinations hc
    obtain ⟨p, -, -, -, hid, hstructure⟩ := buildCombination_eq_ok h.resolved hindexed
    have hlt : c.index < space.cardinality := by
      have hmem : c.index ∈ combinations.map (·.index) := List.mem_map_of_mem hc
      rw [hindexes] at hmem
      exact List.mem_range.mp hmem
    refine ⟨hid, ?_⟩
    unfold validateParameterCombination
    rw [hvalid, ok_bind, hstructure, ok_bind, (require_eq_ok (u := ())).mpr hlt, ok_bind,
      (require_eq_ok (u := ())).mpr hid]
  have hidentifiers : Function.Injective sha256 →
      (combinations.map (·.combinationId)).Nodup := by
    intro hsha256
    have hnodup : (combinations.map (·.index)).Nodup := by
      rw [hindexes]
      exact List.nodup_range
    refine List.pairwise_map.mpr
      ((List.pairwise_map.mp hnodup).imp_of_mem fun {c c'} hc hc' hne heq => hne ?_)
    rw [(hcombination c hc).1, (hcombination c' hc').1] at heq
    exact combinationId_injective hsha256 heq
  refine ⟨?_, ⟨hindexes, hparameters, hordered, hdistinct, hidentifiers,
    fun c hc => (hcombination c hc).2⟩⟩
  obtain ⟨payload, hpayload, hchecksum, hid⟩ := h.payload
  have hcompatible : service.compatibleDescriptor space = .ok plugin.descriptor := by
    unfold ParameterSearchService.compatibleDescriptor ofStrategy
    rw [h.resolved]
    change (require _ _ >>= fun _ => pure plugin.descriptor) = _
    rw [(require_eq_ok (u := ())).mpr ⟨h.schemaVersion.symm, h.lifecycleVersion.symm⟩]
    rfl
  have hidentity : verifySpaceIdentity sha256 space payload = .ok () := by
    unfold verifySpaceIdentity
    rw [(require_eq_ok (u := ())).mpr hchecksum.symm, ok_bind,
      (require_eq_ok (u := ())).mpr hid.symm]
  have hexpansion : validateExpansion sha256 space combinations = .ok () := by
    unfold validateExpansion
    rw [hvalid, ok_bind, (require_eq_ok (u := ())).mpr hlength, ok_bind,
      (forM_eq_ok (u := ())).mpr fun c hc => (hcombination c hc).2, ok_bind,
      (require_eq_ok (u := ())).mpr hindexes]
  unfold ParameterSearchService.expand
  rw [hvalid, ok_bind, hcompatible, ok_bind, hpayload, ok_bind, hidentity, ok_bind, h.combinations,
    ok_bind, hexpansion]
  rfl

end

/-- **Parameter spaces expand exactly.**  A space that is created has the values that were supplied,
in whatever order they were listed, and expands to every choice of them once, joined with the fixed
values and the defaults, in the lexicographic order of the keys; its cardinality is the exact
product, which is calculated exactly when it is within the limit. -/
theorem parameter_expansion_exact (sha256 : List Char → String) (service : ParameterSearchService) :
    (∀ pluginName pluginVersion search fixed maximum space,
      service.create sha256 pluginName pluginVersion search fixed maximum = .ok space →
      (∃ plugin, service.registry.resolve pluginName pluginVersion = .ok plugin ∧
        SpaceOf plugin.descriptor search fixed space ∧
        ∃ combinations, service.expand sha256 space = .ok combinations ∧
          IsExpansion sha256 plugin.descriptor space combinations) ∧
      ∀ search' fixed', SameSearch search search' → fixed.Perm fixed' →
        (fixed.map Prod.fst).Nodup →
        service.create sha256 pluginName pluginVersion search' fixed' maximum = .ok space) ∧
    (∀ space choice, choice ∈ product (dimensions space) ↔
      List.Forall₂ (· ∈ ·) choice (dimensions space)) ∧
    ∀ parameters maximum n, calculateCardinality parameters maximum = .ok n ↔
      (1 ≤ maximum ∧ maximum ≤ absoluteMaxCombinations ∧ parameters ≠ [] ∧
        ∀ parameter ∈ parameters, Dimension parameter) ∧
      n = choiceCount parameters ∧ n ≤ maximum := by
  refine ⟨?_, fun _ _ => mem_product_iff, fun _ _ _ => calculateCardinality_eq_ok⟩
  intro pluginName pluginVersion search fixed maximum space h
  obtain ⟨plugin, combinations, hplugin, hspace, hcreated⟩ := create_eq_ok h
  exact ⟨⟨plugin, hplugin, hspace, combinations, hcreated.expansion hspace⟩,
    fun search' fixed' hsearch hfixed hnodup => create_congr hsearch hfixed hnodup h⟩

/-! ### A sample -/

theorem sample_identities :
    ([(⟨sampleDescriptor, fun p => .ok ⟨⟨"sample", "sample", p⟩, true⟩⟩ : StrategyPlugin)].map
      fun plugin => (plugin.descriptor.name, plugin.descriptor.version)).Nodup :=
  List.nodup_singleton _

/-- One plugin, whose factory returns what it is given. -/
def sampleService : ParameterSearchService where
  registry := {
    plugins := [⟨sampleDescriptor, fun p => .ok ⟨⟨"sample", "sample", p⟩, true⟩⟩]
    identities_nodup := sample_identities }
  availableIndicators := []

/-- Three periods and two thresholds make six combinations. -/
theorem six_combinations : ∃ space combinations,
    sampleService.create String.ofList "sample" "sample"
        [("threshold",
            .sequence [.value (.decimal ⟨false, 15, -1⟩), .value (.decimal ⟨true, 2, 0⟩)]),
          ("period", .sequence [.value (.int 3), .value (.int 10), .value (.int 2)])] [] 6 =
      .ok space ∧
    sampleService.expand String.ofList space = .ok combinations ∧ combinations.length = 6 := by
  have hrun : (sampleService.create String.ofList "sample" "sample"
      [("threshold",
          .sequence [.value (.decimal ⟨false, 15, -1⟩), .value (.decimal ⟨true, 2, 0⟩)]),
        ("period", .sequence [.value (.int 3), .value (.int 10), .value (.int 2)])] [] 6).map
      (fun space => decide (space.cardinality = 6)) = .ok true := by
    decide +kernel
  obtain ⟨space, hspace, hsix⟩ := exists_of_map_eq_true hrun
  obtain ⟨⟨plugin, -, -, combinations, hexpand, hexpansion⟩, -⟩ :=
    (parameter_expansion_exact String.ofList sampleService).1 _ _ _ _ _ _ hspace
  refine ⟨space, combinations, hspace, hexpand, ?_⟩
  have hlength := congrArg List.length hexpansion.indexes
  rwa [List.length_map, List.length_range, of_decide_eq_true hsix] at hlength

end Optimization
end DryTrade
