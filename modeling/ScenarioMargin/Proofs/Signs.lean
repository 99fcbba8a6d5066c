/-
ScenarioMargin/Proofs/Signs.lean

The sign of a configured shock does not matter.  A scenario is evaluated in
combinations of signs, and these are the same set of scenarios when the price
change, the volatility change or both are given with the other sign
(`variants_turned`): the two signs of a settled number are those of the number
opposed to it, and the variants are all combinations of the signs of the two
changes.  The extremes of a set of results depend neither on the order of the
results nor on how they are spelled (`Extremes.agree_of_results`).

A zero has one sign only, and its two spellings stand for the same number.

Main result: `assetStatistics_turned`.
-/
import ScenarioMargin.Proofs.Extremes
import ScenarioMargin.Proofs.Spelling

namespace ScenarioMargin

open Decimal

/-! ### The two signs of a number -/

/-- The same number, or the one opposed to it. -/
def Decimal.Turned (a a' : Decimal) : Prop :=
  a.Same a' ∨ a.Opposed a'

variable {a a' b b' : Decimal}

/-- Rounding leaves a number what it is if it does so for the same number or
the opposed one. -/
theorem Decimal.IsSettled.turned (h : a.IsSettled) (turned : a.Turned a') :
    a'.IsSettled := by
  obtain ⟨x, reads, settled⟩ := isSettled_iff.mp h
  rcases turned with same | opposed
  · exact isSettled_iff.mpr ⟨x, same.symm.trans reads, settled⟩
  · refine isSettled_iff.mpr ⟨-x, ?_, ?_⟩
    · rw [opposed.symm, reads]
      rfl
    · rw [Quantity.ofRational_neg, settled]
      rfl

/-- Each element of a list stands for the same as one of another list. -/
def Covers {α : Type} (R : α → α → Prop) (as bs : List α) : Prop :=
  ∀ a ∈ as, ∃ b ∈ bs, R a b

theorem covers_pair (h : a.Same a' ∧ b.Same b' ∨ a.Same b' ∧ b.Same a') :
    Covers Same [a, b] [a', b'] := by
  rw [Covers, List.forall_mem_cons, List.forall_mem_singleton]
  rcases h with ⟨first, second⟩ | ⟨first, second⟩
  · exact ⟨⟨a', by simp, first⟩, ⟨b', by simp, second⟩⟩
  · exact ⟨⟨b', by simp, first⟩, ⟨a', by simp, second⟩⟩

/-- The signs of a number are those of the number opposed to it. -/
theorem Decimal.IsSettled.signs (h : a.IsSettled) (turned : a.Turned a') :
    ∃ b b', a.neg = .ok b ∧ a'.neg = .ok b' ∧ Covers Same [a, b] [a', b'] ∧
      Covers Same [a', b'] [a, b] := by
  obtain ⟨b, turns, fall⟩ := ok_of_quantity h.neg_quantity
  obtain ⟨b', turns', fall'⟩ := ok_of_quantity (h.turned turned).neg_quantity
  refine ⟨b, b', turns, turns', ?_⟩
  rcases turned with same | opposed
  · have others : b.Same b' := by rw [Same, fall, fall', same]
    exact ⟨covers_pair (.inl ⟨same, others⟩),
      covers_pair (.inl ⟨same.symm, others.symm⟩)⟩
  · have first : a.Same b' := opposed.trans fall'.symm
    have second : a'.Same b := opposed.symm.trans fall.symm
    exact ⟨covers_pair (.inr ⟨first, second.symm⟩),
      covers_pair (.inr ⟨second, first.symm⟩)⟩

/-! ### Combinations of signs -/

/-- All scenarios of given price changes and volatility changes. -/
def Scenario.combinations (prices volatilities : List Decimal) : List Scenario :=
  prices.flatMap fun p => volatilities.map fun v => ⟨p, v⟩

theorem Scenario.mem_combinations {prices volatilities : List Decimal}
    {s : Scenario} :
    s ∈ combinations prices volatilities ↔
      s.priceChange ∈ prices ∧ s.volatilityChange ∈ volatilities := by
  rw [combinations, List.mem_flatMap]
  constructor
  · rintro ⟨p, hp, mem⟩
    obtain ⟨v, hv, rfl⟩ := List.mem_map.mp mem
    exact ⟨hp, hv⟩
  · rintro ⟨hp, hv⟩
    exact ⟨_, hp, List.mem_map.mpr ⟨_, hv, rfl⟩⟩

theorem Scenario.covers_combinations
    {prices prices' volatilities volatilities' : List Decimal}
    (hp : Covers Decimal.Same prices prices')
    (hv : Covers Decimal.Same volatilities volatilities') :
    Covers Scenario.Same (combinations prices volatilities)
      (combinations prices' volatilities') := by
  intro s mem
  obtain ⟨price, volatility⟩ := mem_combinations.mp mem
  obtain ⟨p, mem, sameP⟩ := hp _ price
  obtain ⟨v, mem', sameV⟩ := hv _ volatility
  exact ⟨⟨p, v⟩, mem_combinations.mpr ⟨mem, mem'⟩, sameP, sameV⟩

/-- Scenarios whose changes are the same or opposed to each other. -/
structure Scenario.Turned (s s' : Scenario) : Prop where
  price : s.priceChange.Turned s'.priceChange
  volatility : s.volatilityChange.Turned s'.volatilityChange

/-- A scenario whose changes rounding leaves what they are. -/
structure Scenario.IsSettled (s : Scenario) : Prop where
  price : s.priceChange.IsSettled
  volatility : s.volatilityChange.IsSettled

/-- Scenarios that stand for the same ones, as many of them, and some. -/
structure SameSet (scenarios scenarios' : List Scenario) : Prop where
  nonempty : scenarios ≠ []
  forth : Covers Scenario.Same scenarios scenarios'
  back : Covers Scenario.Same scenarios' scenarios
  length : scenarios.length = scenarios'.length

section Variants

variable {s s' : Scenario}

theorem Scenario.IsSettled.signs (h : s.IsSettled) (turned : s.Turned s') :
    Agree False SameSet s.signs s'.signs := by
  obtain ⟨p, p', turns, turns', prices, prices'⟩ := h.price.signs turned.price
  obtain ⟨v, v', falls, falls', volatilities, volatilities'⟩ :=
    h.volatility.signs turned.volatility
  rw [Scenario.signs, Scenario.signs, turns, turns', falls, falls']
  exact .ok ⟨List.cons_ne_nil _ _, covers_combinations prices volatilities,
    covers_combinations prices' volatilities', rfl⟩

theorem Scenario.IsSettled.priceSigns (h : s.IsSettled) (turned : s.Turned s') :
    Agree False SameSet s.priceSigns s'.priceSigns := by
  obtain ⟨p, p', turns, turns', prices, prices'⟩ := h.price.signs turned.price
  have zeros : Covers Decimal.Same [zero] [zero] := fun z hz => ⟨z, hz, Same.refl z⟩
  rw [Scenario.priceSigns, Scenario.priceSigns, turns, turns']
  exact .ok ⟨List.cons_ne_nil _ _, covers_combinations prices zeros,
    covers_combinations prices' zeros, rfl⟩

end Variants

/-! ### Statistics -/

/-- The category with another scenario for a bucket. -/
def CategoryInfo.withScenario (category : CategoryInfo) (b : Fin bucketCount)
    (s : Scenario) : CategoryInfo :=
  ⟨category.rate, category.volatility, category.scenarios.set b s,
    by rw [List.length_set, category.complete]⟩

theorem CategoryInfo.scenario_withScenario (category : CategoryInfo)
    (b : Fin bucketCount) (s : Scenario) :
    (category.withScenario b s).scenario b = s := by
  rw [scenario, List.get_eq_getElem]
  exact List.getElem_set_self _

theorem CategoryInfo.variants_turned {category : CategoryInfo} {period : Value}
    {b : Fin bucketCount} (found : bucket period = .ok b)
    (settled : (category.scenario b).IsSettled) {s : Scenario}
    (turned : (category.scenario b).Turned s) (withOption : Bool) :
    Agree False SameSet (category.variants period withOption)
      ((category.withScenario b s).variants period withOption) := by
  rw [variants_of_bucket found, variants_of_bucket found, scenario_withScenario]
  cases withOption with
  | false => exact (settled.priceSigns turned).lift
  | true => exact (settled.signs turned).lift

/-- **The sign of a configured shock does not matter.**  Let the scenario of a
period's bucket have changes that rounding leaves what they are, and let live
options be priced by the numbers of their market.

With a scenario in its place whose price change, volatility change, or both
have the other sign, the statistics of any positions return or stop as before,
and what they return stands for the same numbers and was found in as many
scenarios. -/
theorem assetStatistics_turned {live : LiveModel} (byValue : live.ByValue)
    (positions : List Position) (info : AssetInfo) (category : CategoryInfo)
    {period : Value} (now : Int) {b : Fin bucketCount}
    (found : bucket period = .ok b) (settled : (category.scenario b).IsSettled)
    {s : Scenario} (turned : (category.scenario b).Turned s) :
    Agree False AssetStatistics.Same
      (assetStatistics live positions info category period now)
      (assetStatistics live positions info
        (category.withScenario b s) period now) := by
  -- only the scenarios differ; the market is the same
  have market : (info.market category).Same (info.market category) :=
    ⟨Same.refl _, Same.refl _, Same.refl _⟩
  rw [assetStatistics, assetStatistics]
  refine Agree.bind_self (valuedAt live (info.market category) now positions)
    fun valued => ?_
  refine (category.variants_turned found settled turned
    (withOption positions)).bind fun scenarios scenarios' set => ?_
  have values : List.Forall₂ SameValued valued valued :=
    List.forall₂_same.mpr fun entry _ => ⟨⟨rfl, Same.refl _, rfl, rfl⟩, Same.refl _⟩
  have result {s s' : Scenario} (same : s.Same s') : Agree False Decimal.Same
      (scenarioResult live (info.market category) now valued s)
      (scenarioResult live (info.market category) now valued s') :=
    scenarioResult_same byValue market values same
  have extremes : Agree False Extremes.Same
      (Extremes.takeAll (scenarioResult live (info.market category) now valued)
        scenarios Extremes.start)
      (Extremes.takeAll (scenarioResult live (info.market category) now valued)
        scenarios' Extremes.start) := by
    refine Extremes.agree_of_results set.nonempty (fun s hs => ?_)
      (fun s' hs' => ?_)
    · obtain ⟨s', hs', same⟩ := set.forth s hs
      exact ⟨s', hs', result same⟩
    · obtain ⟨s, hs, same⟩ := set.back s' hs'
      exact ⟨s, hs, (result same).symm.mono fun _ _ same => same.symm⟩
  refine extremes.bind fun e f same => ?_
  exact Agree.bind_self _ fun gross =>
    .pure ⟨same.best, same.worst, Same.refl gross, set.length⟩

/-! ### The small book with a shock turned around -/

namespace Sample

/-- The shock of the small book with both changes the other way. -/
def turnedShock : Scenario :=
  ⟨.finite true 10 (-2), .finite true 5 (-1)⟩

end Sample

/-- With the shock turned around, the small book's four scenarios are the same,
and so are its statistics. -/
theorem sample_turned :
    ∃ s t, assetStatistics Sample.live Sample.book ⟨.low, .ofInt 100⟩
        Sample.category (.whole 3600) 0 = .ok s ∧
      assetStatistics Sample.live Sample.book ⟨.low, .ofInt 100⟩
        (Sample.category.withScenario ⟨1, by decide⟩ Sample.turnedShock)
        (.whole 3600) 0 = .ok t ∧
      s.Same t ∧ t.scenarioCount = 4 := by
  have found : bucket (.whole 3600) = .ok ⟨1, by decide⟩ := rfl
  have settled : (Sample.category.scenario ⟨1, by decide⟩).IsSettled :=
    ⟨⟨.finite false 10 (-2), by decide +kernel, rfl⟩,
      ⟨.finite false 5 (-1), by decide +kernel, rfl⟩⟩
  have turned :
      (Sample.category.scenario ⟨1, by decide⟩).Turned Sample.turnedShock :=
    ⟨.inr (show Decimal.quantity _ =
      (Decimal.quantity _).opposite by decide +kernel),
      .inr (show Decimal.quantity _ =
        (Decimal.quantity _).opposite by decide +kernel)⟩
  have law := assetStatistics_turned Sample.live_byValue Sample.book
    ⟨.low, .ofInt 100⟩ Sample.category 0 found settled turned
  have run :
      (assetStatistics Sample.live Sample.book
        ⟨.low, .ofInt 100⟩ Sample.category (.whole 3600)
      0).map AssetStatistics.scenarioCount = .ok 4 := by decide +kernel
  obtain ⟨s, runs, count⟩ := map_eq_ok.mp run
  rw [runs] at law
  obtain ⟨t, runs', same⟩ := law.of_ok
  exact ⟨s, t, runs, runs', same, same.count.symm.trans count⟩

end ScenarioMargin
