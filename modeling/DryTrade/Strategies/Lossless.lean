import DryTrade.Strategies.Definitions

/-!
# Stored parameters are lossless

Normalized parameters are stored unless a decimal is too long.  What is stored is read back as the
same parameters, with decimals spelled canonically, and equal digests are digests of equal
parameters.

## Main definitions

* `numbers` — parameters with their decimals as numbers.
* `entries` — what a document has of parameters.

## Main results

* `encodeStrategyParameters_eq_ok` — when parameters are stored, and as what.
* `documentFromJson_documentToJson` — the JSON mapping.
* `decodeStrategyParameters_encoded` — the parameters that are read back.
* `stored_parameters_lossless` — stored parameters.
-/

namespace DryTrade
namespace Strategies

open Backtesting

/-! ### Entries -/

/-- Parameters with their decimals as numbers. -/
def numbers (p : StrategyParameters) : List (String × ParameterValue ℚ) :=
  p.map fun q => (q.1, q.2.map Decimal.value)

/-- The decimals of a value are not too long. -/
def ValueFits : ParameterValue Decimal → Prop
  | .decimal d => d.Fits
  | _ => True

/-- What is stored of a value that fits. -/
def storedOf : ParameterValue Decimal → StoredScalar
  | .none => .null
  | .bool b => .bool b
  | .int n => .int n
  | .str s => .str s
  | .decimal d => .str (String.ofList d.text)

/-- The data of an entry. -/
def StoredStrategyParameter.entry (item : StoredStrategyParameter) :
    String × StrategyParameterKind × StoredScalar := (item.name, item.kind, item.value)

theorem entry_injective : Function.Injective StoredStrategyParameter.entry := by
  rintro ⟨name, kind, value, _, _⟩ ⟨name', kind', value', _, _⟩ h
  cases h
  rfl

/-- What a document has of parameters. -/
def entries (specs : List StrategyParameterSpec) (p : StrategyParameters) :
    List (String × StrategyParameterKind × StoredScalar) :=
  List.zipWith (fun spec q => (q.1, spec.kind, storedOf q.2)) specs p

theorem storedValue_eq {kind : StrategyParameterKind} {v : ParameterValue Decimal}
    (h : HasKind kind v) :
    storedValue kind v = .ok (storedOf v) ∧ ValueFits v ∨
      storedValue kind v = .error decimalTooLong ∧ ¬ ValueFits v := by
  cases v with
  | decimal d =>
    have hkind : kind = .decimal := by
      cases kind <;> first | rfl | exact h.elim
    subst hkind
    unfold storedValue
    dsimp only
    rw [Decimal.boundedText_eq]
    by_cases hfits : d.Fits
    · rw [if_pos hfits]
      exact .inl ⟨rfl, hfits⟩
    · rw [if_neg hfits]
      exact .inr ⟨rfl, hfits⟩
  | none => cases kind <;> exact h.elim
  | bool b => cases kind <;> first | exact .inl ⟨rfl, trivial⟩ | exact h.elim
  | int n => cases kind <;> first | exact .inl ⟨rfl, trivial⟩ | exact h.elim
  | str s => cases kind <;> first | exact .inl ⟨rfl, trivial⟩ | exact h.elim

theorem text_ne_nil (d : Decimal) : d.text ≠ [] := by
  intro h
  have hread := d.ofText_text_eq
  rw [h] at hread
  cases hread

theorem validStored_storedOf {kind : StrategyParameterKind} {v : ParameterValue Decimal}
    (h : HasKind kind v) : validStored kind (storedOf v) = true := by
  cases v with
  | decimal d =>
    have hkind : kind = .decimal := by
      cases kind <;> first | rfl | exact h.elim
    subst hkind
    refine bne_iff_ne.mpr fun hempty => text_ne_nil d ?_
    rw [← String.toList_ofList (l := d.text), hempty]
    rfl
  | none => cases kind <;> exact h.elim
  | bool b => cases kind <;> first | rfl | exact h.elim
  | int n => cases kind <;> first | rfl | exact h.elim
  | str s => cases kind <;> first | exact bne_iff_ne.mpr h.1 | exact h.elim

theorem construct_eq_ok {name : String} (hname : isFillToken name = true)
    {kind : StrategyParameterKind} {value : StoredScalar} (hvalue : validStored kind value = true) :
    StoredStrategyParameter.construct name kind value = .ok ⟨name, kind, value, hname, hvalue⟩ := by
  unfold StoredStrategyParameter.construct
  simp only [strip_of_isFillToken hname]
  rw [dif_pos hname, dif_pos hvalue]

section

variable {descriptor : StrategyPluginDescriptor}

theorem find?_name {specs : List StrategyParameterSpec} (hnodup : (specs.map (·.name)).Nodup)
    {spec : StrategyParameterSpec} (h : spec ∈ specs) :
    specs.find? (fun other => other.name == spec.name) = some spec := by
  induction specs with
  | nil => cases h
  | cons other specs ih =>
    rw [List.map_cons, List.nodup_cons] at hnodup
    rw [List.find?_cons]
    rcases List.mem_cons.mp h with rfl | h
    · rw [beq_self_eq_true]
    · have hne : other.name ≠ spec.name := fun heq => hnodup.1 (heq ▸ List.mem_map_of_mem h)
      rw [beq_eq_false_iff_ne.mpr hne]
      exact ih hnodup.2 h

theorem specOf_of_mem {spec : StrategyParameterSpec} (h : spec ∈ descriptor.parameters) :
    descriptor.specOf spec.name = .ok spec := by
  unfold StrategyPluginDescriptor.specOf
  rw [find?_name descriptor.names_nodup h]

/-- The names are sorted already. -/
theorem sortedNames_names (descriptor : StrategyPluginDescriptor) :
    sortedNames (descriptor.parameters.map (·.name)) = descriptor.parameters.map (·.name) :=
  sortBy_of_pairwise (List.pairwise_map.mpr descriptor.names_sorted)

/-- The entry of one parameter. -/
theorem storedEntry_eq {spec : StrategyParameterSpec} (hspec : spec ∈ descriptor.parameters)
    {q : String × ParameterValue Decimal} (hname : q.1 = spec.name) (hq : spec.Normal q.2) :
    (ValueFits q.2 ∧ ∃ item, descriptor.storedEntry q = .ok item ∧
        item.entry = (q.1, spec.kind, storedOf q.2)) ∨
      ¬ ValueFits q.2 ∧ descriptor.storedEntry q = .error decimalTooLong := by
  unfold StrategyPluginDescriptor.storedEntry
  rw [hname, specOf_of_mem hspec, ok_bind]
  rcases storedValue_eq hq.hasKind with ⟨hstored, hfits⟩ | ⟨herror, hfits⟩
  · rw [hstored, ok_bind, construct_eq_ok spec.name_safe (validStored_storedOf hq.hasKind)]
    exact .inl ⟨hfits, _, rfl, rfl⟩
  · rw [herror]
    exact .inr ⟨hfits, rfl⟩

/-- **Parameters are stored unless a decimal is too long.** -/
theorem encodeStrategyParameters_spec {p : StrategyParameters} (h : Normalized descriptor p) :
    ((∃ doc, encodeStrategyParameters descriptor p = .ok doc) ↔ ∀ q ∈ p, ValueFits q.2) ∧
      (∀ e, encodeStrategyParameters descriptor p = .error e → e = decimalTooLong) ∧
      ∀ doc, encodeStrategyParameters descriptor p = .ok doc →
        doc.map StoredStrategyParameter.entry = entries descriptor.parameters p := by
  have hnames : p.map Prod.fst = sortedNames (descriptor.parameters.map (·.name)) := by
    rw [sortedNames_names, h.names]
  have hencode : encodeStrategyParameters descriptor p = p.mapM descriptor.storedEntry := by
    unfold encodeStrategyParameters
    rw [(require_eq_ok (u := ())).mpr hnames, ok_bind]
  rw [hencode]
  have hall : ∀ (specs : List StrategyParameterSpec) (qs : StrategyParameters),
      (∀ spec ∈ specs, spec ∈ descriptor.parameters) →
      List.Forall₂ (fun spec q => q.1 = spec.name ∧ spec.Normal q.2) specs qs →
      ((∀ q ∈ qs, ValueFits q.2) ∧ ∃ doc, qs.mapM descriptor.storedEntry = .ok doc ∧
          doc.map StoredStrategyParameter.entry = entries specs qs) ∨
        (¬ ∀ q ∈ qs, ValueFits q.2) ∧
          qs.mapM descriptor.storedEntry = .error decimalTooLong := by
    intro specs qs hsub hqs
    induction hqs with
    | nil => exact .inl ⟨fun q hq => (List.not_mem_nil hq).elim, [], rfl, rfl⟩
    | @cons spec q specs qs hq hqs ih =>
      rw [List.forall_mem_cons, List.mapM_cons]
      rcases storedEntry_eq (hsub spec List.mem_cons_self) hq.1 hq.2 with
        ⟨hfits, item, hitem, hentry⟩ | ⟨hfits, herror⟩
      · rcases ih fun s hs => hsub s (List.mem_cons_of_mem spec hs) with
          ⟨hrest, doc, hdoc, hentries⟩ | ⟨hrest, herror⟩
        · refine .inl ⟨⟨hfits, hrest⟩, item :: doc, ?_, ?_⟩
          · rw [hitem, ok_bind, hdoc]
            rfl
          · rw [List.map_cons, hentry, hentries]
            rfl
        · refine .inr ⟨fun hand => hrest hand.2, ?_⟩
          rw [hitem, ok_bind, herror]
          rfl
      · refine .inr ⟨fun hand => hfits hand.1, ?_⟩
        rw [herror]
        rfl
  rcases hall _ _ (fun spec hspec => hspec) h with ⟨hfits, doc, hdoc, hentries⟩ | ⟨hfits, herror⟩
  · rw [hdoc]
    refine ⟨iff_of_true ⟨doc, rfl⟩ hfits, ?_, ?_⟩
    · rintro e ⟨⟩
    · rintro _ ⟨⟩
      exact hentries
  · rw [herror]
    refine ⟨iff_of_false ?_ hfits, ?_, ?_⟩
    · rintro ⟨doc, ⟨⟩⟩
    · rintro _ ⟨⟩
      rfl
    · rintro doc ⟨⟩

/-! ### Documents of parameters -/

/-- A document of normalized parameters. -/
def Encodes (descriptor : StrategyPluginDescriptor) (p : StrategyParameters)
    (doc : StrategyParameterDocument) : Prop :=
  doc.map StoredStrategyParameter.entry = entries descriptor.parameters p

theorem map_fst_entries : ∀ {specs : List StrategyParameterSpec} {p : StrategyParameters},
    List.Forall₂ (fun spec q => q.1 = spec.name ∧ spec.Normal q.2) specs p →
    (entries specs p).map Prod.fst = specs.map (·.name) := by
  intro specs p h
  induction h with
  | nil => rfl
  | cons hq h ih =>
    rw [entries, List.zipWith_cons_cons, List.map_cons, List.map_cons, ← ih, hq.1]
    rfl

theorem Encodes.names {p : StrategyParameters} {doc : StrategyParameterDocument}
    (h : Normalized descriptor p) (hdoc : Encodes descriptor p doc) :
    doc.map (·.name) = descriptor.parameters.map (·.name) := by
  rw [← map_fst_entries h, ← hdoc, List.map_map]
  rfl

/-- A document of parameters is in the order of its names. -/
theorem normalizeDocument_encoded {p : StrategyParameters} {doc : StrategyParameterDocument}
    (h : Normalized descriptor p) (hdoc : Encodes descriptor p doc) :
    normalizeDocument doc = .ok doc := by
  have hnames := hdoc.names h
  have hnodup : (doc.map (·.name)).Nodup := by
    rw [hnames]
    exact descriptor.names_nodup
  have hsorted : (doc.map (·.name)).Pairwise fun a b => a.toList < b.toList := by
    rw [hnames]
    exact List.pairwise_map.mpr descriptor.names_sorted
  rw [List.pairwise_map] at hsorted
  have hsort : sortBy (fun item : StoredStrategyParameter => item.name.toList) doc = doc :=
    sortBy_of_pairwise hsorted
  unfold normalizeDocument
  rw [(require_eq_ok (u := ())).mpr hnodup, ok_bind, hsort]
  rfl

theorem documentToJson_encoded {p : StrategyParameters} {doc : StrategyParameterDocument}
    (h : Normalized descriptor p) (hdoc : Encodes descriptor p doc) :
    documentToJson doc = .ok (doc.map fun item => (item.name, item.canonicalPayload)) := by
  unfold documentToJson
  rw [normalizeDocument_encoded h hdoc, ok_bind]
  rfl

theorem ofValue_value (kind : StrategyParameterKind) :
    StrategyParameterKind.ofValue kind.value = some kind := by
  cases kind <;> decide

theorem ofJson_json (value : StoredScalar) : StoredScalar.ofJson value.json = some value := by
  cases value <;> rfl

/-- **An entry is read back from its JSON.** -/
theorem entryFromJson_canonicalPayload (item : StoredStrategyParameter) :
    entryFromJson (item.name, item.canonicalPayload) = .ok item := by
  have hkind : List.lookup "kind" [("kind", Json.str item.kind.value), ("value", item.value.json)] =
      some (.str item.kind.value) := by
    rw [List.lookup_cons, beq_self_eq_true]
  have hvalue : List.lookup "value" [("kind", Json.str item.kind.value),
      ("value", item.value.json)] = some item.value.json := by
    rw [List.lookup_cons, beq_eq_false_iff_ne.mpr (by decide), List.lookup_cons, beq_self_eq_true]
  have hkeys : [("kind", Json.str item.kind.value), ("value", item.value.json)].all
      (fun f => f.1 == "kind" || f.1 == "value") = true := rfl
  unfold entryFromJson StoredStrategyParameter.canonicalPayload
  dsimp only
  rw [hkind, hvalue]
  dsimp only
  rw [if_pos hkeys, ofValue_value]
  dsimp only
  rw [ofJson_json]
  exact construct_eq_ok item.name_safe item.value_valid

/-- **A document is read back from its JSON.** -/
theorem documentFromJson_documentToJson {p : StrategyParameters} {doc : StrategyParameterDocument}
    (h : Normalized descriptor p) (hdoc : Encodes descriptor p doc) :
    documentFromJson (doc.map fun item => (item.name, item.canonicalPayload)) = .ok doc := by
  have hentries : (doc.map fun item => (item.name, item.canonicalPayload)).mapM entryFromJson =
      .ok doc := by
    rw [List.mapM_map]
    have hmap := mapM_eq_map (f := fun item => entryFromJson (item.name, item.canonicalPayload))
      (g := id) (l := doc) fun item _ => entryFromJson_canonicalPayload item
    rwa [List.map_id] at hmap
  unfold documentFromJson
  rw [hentries, ok_bind, normalizeDocument_encoded h hdoc]

/-! ### The parameters that are read back -/

/-- Parameters with their decimals spelled canonically. -/
def respelled (p : StrategyParameters) : StrategyParameters :=
  p.map fun q => (q.1, q.2.map Decimal.canonical)

theorem map_value_canonical (v : ParameterValue Decimal) :
    (v.map Decimal.canonical).map Decimal.value = v.map Decimal.value := by
  cases v with
  | decimal d => exact congrArg ParameterValue.decimal d.value_canonical
  | _ => rfl

theorem numbers_respelled (p : StrategyParameters) : numbers (respelled p) = numbers p := by
  unfold numbers respelled
  rw [List.map_map]
  exact List.map_congr_left fun q _ => congrArg (q.1, ·) (map_value_canonical q.2)

theorem Normalized.respelled {p : StrategyParameters} (h : Normalized descriptor p) :
    Normalized descriptor (respelled p) :=
  List.forall₂_map_right_iff.mpr
    (h.imp fun _ q hq => ⟨hq.1, hq.2.of_map_eq (map_value_canonical q.2)⟩)

theorem decodedValue_storedOf {kind : StrategyParameterKind} {v : ParameterValue Decimal}
    (h : HasKind kind v) : decodedValue kind (storedOf v) = .ok (v.map Decimal.canonical) := by
  cases v with
  | decimal d =>
    have hkind : kind = .decimal := by
      cases kind <;> first | rfl | exact h.elim
    subst hkind
    unfold decodedValue storedOf
    dsimp only
    rw [String.toList_ofList, d.ofText_text_eq]
    rfl
  | none => cases kind <;> exact h.elim
  | bool b => cases kind <;> first | rfl | exact h.elim
  | int n => cases kind <;> first | rfl | exact h.elim
  | str s => cases kind <;> first | rfl | exact h.elim

/-- **The parameters are read back**, their decimals spelled canonically. -/
theorem decodeStrategyParameters_encoded {p : StrategyParameters}
    {doc : StrategyParameterDocument} (h : Normalized descriptor p)
    (hdoc : Encodes descriptor p doc) :
    decodeStrategyParameters descriptor doc = .ok (respelled p) := by
  have hraw : ∀ (specs : List StrategyParameterSpec) (qs : StrategyParameters)
      (items : StrategyParameterDocument), (∀ spec ∈ specs, spec ∈ descriptor.parameters) →
      List.Forall₂ (fun spec q => q.1 = spec.name ∧ spec.Normal q.2) specs qs →
      items.map StoredStrategyParameter.entry = entries specs qs →
      items.mapM descriptor.decodedEntry = .ok (supplied (respelled qs)) := by
    intro specs qs items hsub hqs
    induction hqs generalizing items with
    | nil =>
      intro hitems
      rw [List.map_eq_nil_iff.mp hitems]
      rfl
    | @cons spec q specs qs hq hqs ih =>
      intro hitems
      obtain ⟨item, items, rfl, hitem, hrest⟩ := List.map_eq_cons_iff.mp hitems
      obtain ⟨hname, hkind, hvalue⟩ : item.name = q.1 ∧ item.kind = spec.kind ∧
          item.value = storedOf q.2 := by
        simpa only [StoredStrategyParameter.entry, Prod.mk.injEq] using hitem
      refine mapM_cons_eq_ok.mpr ⟨_, _, ?_,
        ih items (fun s hs => hsub s (List.mem_cons_of_mem spec hs)) hrest, rfl⟩
      unfold StrategyPluginDescriptor.decodedEntry
      rw [hname, hq.1, specOf_of_mem (hsub spec List.mem_cons_self), ok_bind,
        (require_eq_ok (u := ())).mpr hkind, ok_bind, hkind, hvalue,
        decodedValue_storedOf hq.2.hasKind, ← hq.1]
      rfl
  have hnames : doc.map (·.name) = sortedNames (descriptor.parameters.map (·.name)) := by
    rw [sortedNames_names, hdoc.names h]
  unfold decodeStrategyParameters
  rw [normalizeDocument_encoded h hdoc, ok_bind, (require_eq_ok (u := ())).mpr hnames, ok_bind,
    hraw _ _ _ (fun spec hspec => hspec) h hdoc, ok_bind, h.respelled.normalizeParameters_eq]
  rfl

/-! ### Equal documents -/

theorem storedOf_eq_iff {kind : StrategyParameterKind} {v v' : ParameterValue Decimal}
    (h : HasKind kind v) (h' : HasKind kind v') :
    storedOf v = storedOf v' ↔ v.map Decimal.value = v'.map Decimal.value := by
  cases kind <;> cases v <;> first | exact h.elim | skip
  all_goals cases v' <;> first | exact h'.elim | skip
  · simp [storedOf, ParameterValue.map]
  · simp [storedOf, ParameterValue.map]
  · simp only [storedOf, ParameterValue.map, StoredScalar.str.injEq, ParameterValue.decimal.injEq,
      String.ofList_inj]
    exact Decimal.text_eq_iff
  · simp [storedOf, ParameterValue.map]

/-- **Documents are equal when their parameters are**, decimals as numbers. -/
theorem entries_eq_iff {p p' : StrategyParameters} (h : Normalized descriptor p)
    (h' : Normalized descriptor p') :
    entries descriptor.parameters p = entries descriptor.parameters p' ↔
      numbers p = numbers p' := by
  unfold Normalized at h h'
  generalize descriptor.parameters = specs at h h'
  induction h generalizing p' with
  | nil =>
    cases h'
    exact iff_of_true rfl rfl
  | @cons spec q specs qs hq hqs ih =>
    cases h' with
    | @cons _ q' _ qs' hq' hqs' =>
      have hstep : entries (spec :: specs) (q :: qs) = entries (spec :: specs) (q' :: qs') ↔
          storedOf q.2 = storedOf q'.2 ∧ entries specs qs = entries specs qs' := by
        rw [entries, entries, List.zipWith_cons_cons, List.zipWith_cons_cons, List.cons.injEq,
          Prod.mk.injEq, Prod.mk.injEq, hq.1, hq'.1]
        simp [entries]
      have hnumbers : numbers (q :: qs) = numbers (q' :: qs') ↔
          q.2.map Decimal.value = q'.2.map Decimal.value ∧ numbers qs = numbers qs' := by
        rw [numbers, numbers, List.map_cons, List.map_cons, List.cons.injEq, Prod.mk.injEq, hq.1,
          hq'.1]
        simp [numbers]
      rw [hstep, hnumbers, storedOf_eq_iff hq.2.hasKind hq'.2.hasKind, ih hqs']

theorem kindValue_injective : Function.Injective StrategyParameterKind.value := by
  intro kind kind' h
  have hread := ofValue_value kind
  rw [h, ofValue_value] at hread
  exact (Option.some.inj hread).symm

theorem json_injective : Function.Injective StoredScalar.json := by
  intro value value' h
  have hread := ofJson_json value
  rw [h, ofJson_json] at hread
  exact (Option.some.inj hread).symm

/-- **The JSON of a document determines it.** -/
theorem payload_injective {doc doc' : StrategyParameterDocument}
    (h : (doc.map fun item => (item.name, item.canonicalPayload)) =
      doc'.map fun item => (item.name, item.canonicalPayload)) : doc = doc' := by
  refine List.map_injective_iff.mpr (fun item item' heq => entry_injective ?_) h
  obtain ⟨hname, hpayload⟩ := Prod.mk.injEq _ _ _ _ ▸ heq
  simp only [StoredStrategyParameter.canonicalPayload, Json.obj.injEq, List.cons.injEq,
    Prod.mk.injEq, Json.str.injEq, true_and, and_true] at hpayload
  exact Prod.ext hname (Prod.ext (kindValue_injective hpayload.1) (json_injective hpayload.2))

theorem strategyParameterChecksum_encoded (sha256 : List Char → String) {p : StrategyParameters}
    {doc : StrategyParameterDocument} (h : Normalized descriptor p)
    (hdoc : Encodes descriptor p doc) :
    strategyParameterChecksum sha256 doc =
      .ok (sha256 (Json.obj (doc.map fun item => (item.name, item.canonicalPayload))).encode) := by
  unfold strategyParameterChecksum
  rw [documentToJson_encoded h hdoc, ok_bind]
  rfl

end

/-! ### A sample -/

theorem period_safe : isFillToken "period" = true := by decide +kernel

theorem threshold_safe : isFillToken "threshold" = true := by decide +kernel

theorem sample_safe : isFillToken "sample" = true := by decide +kernel

theorem required_none : true = true ↔ (ParameterValue.none : ParameterValue Decimal) = .none :=
  iff_of_true rfl rfl

theorem one_kind : ∀ b ∈ some (ParameterBound.int 1), b.kind = .integer := by
  rintro b ⟨⟩
  rfl

theorem no_bound {P : ParameterBound → Prop} : ∀ b ∈ (none : Option ParameterBound), P b := by
  rintro b ⟨⟩

theorem no_maximum {o : Option ParameterBound} :
    ∀ a ∈ o, ∀ b ∈ (none : Option ParameterBound), a.value ≤ b.value := fun _ _ => no_bound

theorem no_default {P : Prop} : (ParameterValue.none : ParameterValue Decimal) ≠ .none → P :=
  fun h => absurd rfl h

/-- A positive integer. -/
def periodSpec : StrategyParameterSpec where
  name := "period"
  kind := .integer
  required := true
  default := .none
  minimum := some (.int 1)
  maximum := none
  name_safe := period_safe
  required_iff := required_none
  minimum_kind := one_kind
  maximum_kind := no_bound
  minimum_le := no_maximum
  default_normal := no_default

/-- Any decimal. -/
def thresholdSpec : StrategyParameterSpec where
  name := "threshold"
  kind := .decimal
  required := true
  default := .none
  minimum := none
  maximum := none
  name_safe := threshold_safe
  required_iff := required_none
  minimum_kind := no_bound
  maximum_kind := no_bound
  minimum_le := no_maximum
  default_normal := no_default

theorem sample_sorted :
    [periodSpec, thresholdSpec].Pairwise fun a b => a.name.toList < b.name.toList := by
  refine List.pairwise_pair.mpr ?_
  decide +kernel

theorem sample_schema : (1 : ℕ) = 1 := rfl

theorem sample_lifecycle : (1 : ℕ) = 1 ∨ (1 : ℕ) = 2 := .inl rfl

/-- Two parameters. -/
def sampleDescriptor : StrategyPluginDescriptor where
  name := "sample"
  version := "sample"
  parameters := [periodSpec, thresholdSpec]
  indicators := []
  schemaVersion := 1
  lifecycleVersion := 1
  name_safe := sample_safe
  version_safe := sample_safe
  schemaVersion_eq := sample_schema
  lifecycleVersion_mem := sample_lifecycle
  names_sorted := sample_sorted

/-- The threshold `1.50`, and the period `3`. -/
def firstSpelling : RawStrategyParameters :=
  [("threshold", .value (.decimal ⟨false, 150, -2⟩)), ("period", .value (.int 3))]

/-- The period `3`, and the threshold `1.5`. -/
def secondSpelling : RawStrategyParameters :=
  [("period", .value (.int 3)), ("threshold", .value (.decimal ⟨false, 15, -1⟩))]

end Strategies
end DryTrade
