import DryTrade.Strategies.Definitions

/-!
# The registry of strategy plugins

A registry resolves the identity of a plugin.  Building a strategy normalizes its parameters, calls
the factory of the plugin and compares the strategy it returns with what was asked for.

## Main definitions

* `StrategyPlugin` — a descriptor and a factory.
* `StrategyPluginRegistry.build` — the strategy of some parameters.
-/

namespace DryTrade
namespace Strategies

open Backtesting

/-- What a factory returns. -/
structure BuiltStrategy where
  descriptor : StrategyRecord Decimal
  hasWarmupCallback : Bool

/-- A descriptor and a factory, which returns equal strategies for equal parameters. -/
structure StrategyPlugin where
  descriptor : StrategyPluginDescriptor
  build : StrategyParameters → Except StrategyError BuiltStrategy

/-- The registered plugins. -/
structure StrategyPluginRegistry where
  plugins : List StrategyPlugin
  identities_nodup :
    (plugins.map fun plugin => (plugin.descriptor.name, plugin.descriptor.version)).Nodup

/-- `resolve`. -/
def StrategyPluginRegistry.resolve (registry : StrategyPluginRegistry) (name version : String) :
    Except StrategyError StrategyPlugin :=
  match registry.plugins.find? fun plugin =>
      plugin.descriptor.name == name && plugin.descriptor.version == version with
  | some plugin => .ok plugin
  | none => .error ⟨.strategyPluginNotFound,
    "strategy plugin is not registered: " ++ name ++ "@" ++ version⟩

/-- `ensure_indicator_compatibility`. -/
def StrategyPluginDescriptor.ensureIndicatorCompatibility (descriptor : StrategyPluginDescriptor)
    (available : List IndicatorCapability) : Except StrategyError Unit :=
  let missing := descriptor.indicators.filter fun requirement => requirement.capability ∉ available
  require (missing = []) ⟨.strategyIndicatorCompatibility,
    "required indicator capabilities are unavailable: " ++ ", ".intercalate (missing.map fun item =>
      item.aliasName ++ "=" ++ item.capability.name ++ "@" ++ item.capability.version)⟩

/-- What `==` compares of a value: booleans, integers and decimals are numbers. -/
def comparedValue : ParameterValue Decimal → ParameterValue ℚ
  | .none => .none
  | .bool b => .decimal (if b then 1 else 0)
  | .int n => .decimal n
  | .str s => .str s
  | .decimal d => .decimal d.value

/-- `descriptor == other`. -/
def sameDescriptor (a b : StrategyRecord Decimal) : Bool :=
  a.name == b.name && a.version == b.version &&
    decide ((a.parameters.map fun q => (q.1, comparedValue q.2)) =
      b.parameters.map fun q => (q.1, comparedValue q.2))

/-- `build`. -/
def StrategyPluginRegistry.build (registry : StrategyPluginRegistry) (name version : String)
    (parameters : RawStrategyParameters) (available : List IndicatorCapability) :
    Except StrategyError BuiltStrategy := do
  let plugin ← registry.resolve name version
  plugin.descriptor.ensureIndicatorCompatibility available
  let normalized ← plugin.descriptor.normalizeParameters parameters
  let strategy ← plugin.build normalized
  let expected ← (StrategyRecord.construct ⟨plugin.descriptor.name, plugin.descriptor.version,
    normalized⟩).mapError fun e => (⟨.value, e.message⟩ : StrategyError)
  require (sameDescriptor strategy.descriptor expected = true) ⟨.invalidStrategyPlugin,
    "strategy factory returned a descriptor divergent from its plugin schema"⟩
  require (plugin.descriptor.lifecycleVersion = 2 → strategy.hasWarmupCallback = true)
    ⟨.invalidStrategyPlugin, "strategy lifecycle 2 factory must return a warmup-aware strategy"⟩
  return strategy

/-- The plugin that is resolved has the identity. -/
theorem resolve_identity {registry : StrategyPluginRegistry} {name version : String}
    {plugin : StrategyPlugin} (h : registry.resolve name version = .ok plugin) :
    plugin.descriptor.name = name ∧ plugin.descriptor.version = version := by
  unfold StrategyPluginRegistry.resolve at h
  split at h
  · next found hfound =>
    cases h
    have hsome := List.find?_some hfound
    rwa [Bool.and_eq_true, beq_iff_eq, beq_iff_eq] at hsome
  · cases h

/-- A plugin is resolved again by its own identity. -/
theorem resolve_again {registry : StrategyPluginRegistry} {name version : String}
    {plugin : StrategyPlugin} (h : registry.resolve name version = .ok plugin) :
    registry.resolve plugin.descriptor.name plugin.descriptor.version = .ok plugin := by
  obtain ⟨rfl, rfl⟩ := resolve_identity h
  exact h

/-- The descriptor that is expected has the normalized parameters as they are. -/
theorem construct_normalized {descriptor : StrategyPluginDescriptor} {p : StrategyParameters}
    (h : Normalized descriptor p) :
    StrategyRecord.construct (⟨descriptor.name, descriptor.version, p⟩ : StrategyRecord Decimal) =
      .ok ⟨descriptor.name, descriptor.version, p⟩ := by
  have hsafe : ∀ q ∈ p, isFillToken q.1 = true := by
    intro q hq
    have hmem : q.1 ∈ descriptor.parameters.map (·.name) := by
      rw [← h.names]
      exact List.mem_map_of_mem hq
    obtain ⟨spec, -, hspec⟩ := List.mem_map.mp hmem
    rw [← hspec]
    exact spec.name_safe
  have hstrip : (p.map fun q => (strip q.1, q.2)) = p := by
    refine (List.map_congr_left fun q hq => ?_).trans (List.map_id p)
    rw [strip_of_isFillToken (hsafe q hq)]
    rfl
  have hsorted : p.Pairwise fun a b => a.1.toList < b.1.toList := by
    have hnames : (p.map Prod.fst).Pairwise fun a b => a.toList < b.toList := by
      rw [h.names]
      exact List.pairwise_map.mpr descriptor.names_sorted
    rwa [List.pairwise_map] at hnames
  have hnodup : (p.map Prod.fst).Nodup := by
    rw [h.names]
    exact descriptor.names_nodup
  have hsort : (p.insertionSort fun a b => a.1.toList ≤ b.1.toList) = p :=
    sortBy_of_pairwise hsorted
  have hall : p.all (fun q => isFillToken q.1) = true := List.all_eq_true.mpr hsafe
  unfold StrategyRecord.construct
  dsimp only
  rw [strip_of_isFillToken descriptor.name_safe, strip_of_isFillToken descriptor.version_safe,
    hstrip, hsort, descriptor.name_safe, descriptor.version_safe, hall, decide_eq_true hnodup]
  rfl

/-- **What a strategy is built of**: the normalized parameters, as its factory spells them. -/
theorem build_eq_ok {registry : StrategyPluginRegistry} {name version : String}
    {plugin : StrategyPlugin} (hresolve : registry.resolve name version = .ok plugin)
    {raw : RawStrategyParameters} {available : List IndicatorCapability} {strategy : BuiltStrategy}
    (h : registry.build name version raw available = .ok strategy) :
    ∃ p, plugin.descriptor.normalizeParameters raw = .ok p ∧
      (strategy.descriptor.parameters.map fun q => (q.1, comparedValue q.2)) =
        p.map fun q => (q.1, comparedValue q.2) := by
  unfold StrategyPluginRegistry.build at h
  rw [hresolve, ok_bind] at h
  simp only [bind_eq_ok, require_eq_ok, exists_const, pure, Except.pure, Except.ok.injEq] at h
  obtain ⟨_, -, p, hp, built, -, expected, hexpected, hsame, -, rfl⟩ := h
  have hnormalized := normalizeParameters_normalized hp
  rw [construct_normalized hnormalized] at hexpected
  cases hexpected
  simp only [sameDescriptor, Bool.and_eq_true, decide_eq_true_eq] at hsame
  exact ⟨p, hp, hsame.2⟩

end Strategies
end DryTrade
