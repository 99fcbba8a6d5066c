/-
ScenarioMargin/Proofs/Floor.lean

The least collateral, and where a NaN ends.  Volatilities, rates, scenarios,
factors, amounts and multipliers may be infinities or NaNs, and most operations
hand these on.  A comparison refuses a NaN, though, and everything that leaves
the engine has come through one: the best and the worst result of a base asset
were taken from its scenarios, and what a case requires is the larger of two
numbers.  A comparison that returns has compared two numbers, so what went into
them was no NaN either: the values of the positions, before the shocks and
after them, the figure at stake and the multiplier.

An amount is never below the least collateral, since it is the larger of this
and something else.  Without legs that other thing is zero, whatever the
factors are.

Main result: `Estimator.floor_containment`.
-/
import ScenarioMargin.Proofs.Exact
import ScenarioMargin.Proofs.Lifecycle
import ScenarioMargin.Proofs.Stops
import ScenarioMargin.Proofs.TwoSided

namespace ScenarioMargin

open Decimal

/-! ### Values -/

/-- A position has a value in a market, and the value is no NaN. -/
def Position.Valued (live : LiveModel) (market : Market) (now : Int)
    (p : Position) : Prop :=
  ∃ v, p.value live market now = .ok v ∧ v.isNaN = false

section Values

variable {live : LiveModel} {positions : List Position} {info : AssetInfo}
  {category : CategoryInfo} {period : Value}
variable {now : Int} {s : AssetStatistics}

/-- Each scenario has a result that lies between the extremes taken from it,
and so is defined. -/
theorem defined_of_extremes {market : Market}
    {valued : List (Position × Decimal)} {scenarios : List Scenario}
    {start extremes : Extremes}
    (h : scenarios.foldlM
      (fun e s => do e.take (← scenarioResult live market now valued s)) start =
      (.ok extremes : Except Fault Extremes)) {scenario : Scenario}
    (mem : scenario ∈ scenarios) :
    ∃ r, scenarioResult live market now valued scenario = .ok r ∧ r ≤ r := by
  obtain ⟨e, e', step⟩ := foldlM_mem h mem
  obtain ⟨r, result, taken⟩ := bind_eq_ok.mp step
  exact ⟨r, result, le_refl_left (Extremes.between_of_take (lift_eq_ok.mp taken)).2⟩

/-- Positions with statistics have values, in the current market and after each
shock. -/
theorem valued_of_assetStatistics
    (h : assetStatistics live positions info category period now = .ok s)
    {p : Position} (hp : p ∈ positions) :
    p.Valued live (info.market category) now ∧
      ∀ scenarios, category.variants period (withOption positions) =
        .ok scenarios → ∀ scenario ∈ scenarios,
        ∃ shocked, (info.market category).shocked scenario = .ok shocked ∧
          p.Valued live shocked now := by
  obtain ⟨valued, scenarios, extremes, values, variants, loop, -⟩ :=
    assetStatistics_eq_ok.mp h
  have each : List.Forall₂ (fun p entry => entry.1 = p ∧
        p.value live (info.market category) now = .ok entry.2)
      positions valued := by
    refine (mapM_eq_ok.mp values).imp fun p entry value => ?_
    obtain ⟨v, value, same⟩ := bind_eq_ok.mp value
    rw [← pure_eq_ok.mp same]
    exact ⟨rfl, value⟩
  obtain ⟨⟨p, before⟩, mem, rfl, value⟩ := exists_of_forall₂ each.flip hp
  have stressed : ∀ scenario ∈ scenarios, before ≤ before ∧
      ∃ shocked, (info.market category).shocked scenario = .ok shocked ∧
        p.Valued live shocked now := by
    intro scenario hs
    obtain ⟨r, result, defined⟩ := defined_of_extremes loop hs
    obtain ⟨shocked, shock, values⟩ := defined_of_scenarioResult result defined
    obtain ⟨definedBefore, after, value', definedAfter⟩ := values _ mem
    exact ⟨definedBefore, shocked, shock, after, value',
      defined_iff.mp definedAfter⟩
  constructor
  · -- there is a scenario that would not have let a NaN through
    obtain ⟨scenario, hs⟩ := List.exists_mem_of_ne_nil _ (variants_ne_nil variants)
    exact ⟨before, value, defined_iff.mp (stressed scenario hs).1⟩
  · intro scenarios' variants'
    obtain rfl := Except.ok.inj (variants.symm.trans variants')
    exact fun scenario hs => (stressed scenario hs).2

/-- The statistics of a base asset are no NaNs. -/
theorem not_isNaN_of_assetStatistics
    (h : assetStatistics live positions info category period now = .ok s) :
    s.biggestProfit.isNaN = false ∧ s.biggestLoss.isNaN = false ∧
      s.grossValue.isNaN = false := by
  have apart := assetStatistics_twoSided h
  exact ⟨defined_iff.mp (le_refl_right apart.sides),
    defined_iff.mp (le_refl_left apart.sides),
    defined_iff.mp (le_refl_right apart.gross)⟩

end Values

/-! ### Cases -/

section Cases

variable {portfolio : Portfolio} {c : Case} {config : CollateralConfig}
  {a least : Decimal}

/-- What a case requires is no NaN and not below the least collateral. -/
theorem floor_of_requiredCollateral
    (h : requiredCollateral portfolio c config = .ok a) :
    a.isNaN = false ∧ ∃ least, config.minCollateral = .ok least ∧ least ≤ a := by
  obtain ⟨risk, scaled, least, -, -, floor, larger⟩ := requiredCollateral_eq_ok.mp h
  have above := le_larger_right larger
  exact ⟨defined_iff.mp (le_refl_right above), least, floor, above⟩

/-- A NaN at stake, or for a multiplier, is not let through. -/
theorem defined_of_stake (h : requiredCollateral portfolio c config = .ok a) :
    portfolio.atStake c ≤ portfolio.atStake c ∧ c.multiplier ≤ c.multiplier := by
  obtain ⟨risk, scaled, least, raised, product, -, larger⟩ :=
    requiredCollateral_eq_ok.mp h
  exact ⟨le_refl_left (le_larger_left raised),
    (defined_of_mul product (le_refl_left (le_larger_left larger))).2⟩

/-- The least collateral is a number, of the sign of the minimum. -/
theorem CollateralConfig.minCollateral_reads
    (h : config.minCollateral = .ok least) :
    ∃ y, least.Reads y ∧ (0 ≤ config.minimum → 0 ≤ y) := by
  have moved := quantity_of_ok (ofInt_scale_quantity (step_of_scale h)) h
  refine ⟨_, Quantity.ofRational_eq moved, fun upper => rounded_nonneg ?_⟩
  exact mul_nonneg (by exact_mod_cast upper) (tenPow_pos _).le

end Cases

/-! ### Nothing at stake -/

section Zero

variable {a b c : Decimal}

/-- A product with zero is zero, unless it is a NaN. -/
theorem Decimal.Reads.zero_of_mul (ha : a.Reads 0) (h : a.mul b = .ok c)
    (defined : c ≤ c) : c.Reads 0 := by
  have product := quantity_of_ok (mul_quantity a b) h
  have factor := (defined_of_mul h defined).2
  rw [ha] at product
  rcases b with ⟨s, d, e⟩ | s | ⟨s, n, p⟩
  · rw [quantity_finite] at product
    have zero : Quantity.ofRational (0 * spelled s d e) = .ok c.quantity := product
    rw [zero_mul, Quantity.ofRational_zero] at zero
    exact (Except.ok.inj zero).symm
  · cases product
  · exact absurd factor Quantity.not_undefined_le

/-- A product of zero and a finite number is zero. -/
theorem Decimal.zero_mul_returns (ha : a.Reads 0) (hb : b.isFinite) :
    ∃ c, a.mul b = .ok c ∧ c.Reads 0 :=
  ok_of_quantity (by
    rw [mul_quantity, ha, reads_number hb]
    show Quantity.ofRational (0 * b.number) = _
    rw [zero_mul, Quantity.ofRational_zero])

/-- The sum of two zeros. -/
theorem Decimal.zero_add_returns (ha : a.Reads 0) (hb : b.Reads 0) :
    ∃ c, a.add b = .ok c ∧ c.Reads 0 :=
  ok_of_quantity (by
    rw [add_quantity, ha, hb]
    show Quantity.ofRational (0 + 0) = _
    rw [add_zero, Quantity.ofRational_zero])

/-- The sum of two zeros, as far as they are defined. -/
theorem Decimal.zero_of_add (ha : a ≤ a → a.Reads 0) (hb : b ≤ b → b.Reads 0)
    (h : a.add b = .ok c) (defined : c ≤ c) : c.Reads 0 := by
  obtain ⟨definedA, definedB⟩ := defined_of_add h defined
  obtain ⟨c', sum, zero⟩ := zero_add_returns (ha definedA) (hb definedB)
  obtain rfl := Except.ok.inj (h.symm.trans sum)
  exact zero

variable {config : CollateralConfig} {portfolio : Portfolio}

/-- Without base assets, loss and profit are zero unless they are NaNs. -/
theorem Portfolio.zero_of_nil
    (h : Portfolio.ofStatistics [] config = .ok portfolio) (case : Case)
    (defined : portfolio.atStake case ≤ portfolio.atStake case) :
    (portfolio.atStake case).Reads 0 := by
  obtain ⟨totals, buffer, profits, losses, overall, sums, scaled, hp, hl, -,
    loss, profit⟩ :=
    Portfolio.ofStatistics_eq_ok.mp h
  obtain rfl := pure_eq_ok.mp sums
  -- a defined figure has a defined sum for a factor, and this a defined buffer
  have bufferZero : buffer ≤ buffer → buffer.Reads 0 :=
    reads_zero.zero_of_mul scaled
  have figure {sum figure : Decimal} (buffered : Decimal.zero.add buffer =
        .ok sum) (scaled : sum.mul overall = .ok figure)
      (defined : figure ≤ figure) : figure.Reads 0 :=
    (zero_of_add (fun _ => reads_zero) bufferZero buffered
      (defined_of_mul scaled defined).1).zero_of_mul scaled defined
  rw [Portfolio.atStake] at defined ⊢
  split_ifs at defined ⊢
  · exact figure hp profit defined
  · exact figure hl loss defined

/-- With finite factors there are loss and profit, and they are zero. -/
theorem Portfolio.nil_returns (shift : config.priceShiftFactor.isFinite)
    (finite : config.overallFactor.isFinite) {overall : Decimal}
    (one : Decimal.one.add config.overallFactor = .ok overall) :
    ∃ portfolio, Portfolio.ofStatistics [] config = .ok portfolio ∧
      portfolio.maxLoss.Reads 0 ∧
      portfolio.maxProfit.Reads 0 := by
  have finite : overall.isFinite := by
    refine isFinite_of_ofRational (y := 1 + config.overallFactor.number) ?_ one
    rw [add_quantity, quantity_one, reads_number finite]
    rfl
  obtain ⟨buffer, scaled, bufferZero⟩ := zero_mul_returns reads_zero shift
  obtain ⟨sum, buffered, sumZero⟩ := zero_add_returns reads_zero bufferZero
  obtain ⟨figure, product, figureZero⟩ := zero_mul_returns sumZero finite
  exact ⟨⟨figure, figure⟩, Portfolio.ofStatistics_eq_ok.mpr
    ⟨_, buffer, sum, sum, overall, rfl, scaled, buffered, buffered, one,
      product, product⟩, figureZero, figureZero⟩

/-- Zero at stake and a least collateral that is not below zero: the least
collateral is required. -/
theorem same_of_zero_stake {case : Case}
    (zero : portfolio.atStake case ≤ portfolio.atStake case →
    (portfolio.atStake case).Reads 0) (upper : 0 ≤ config.minimum)
    (h : requiredCollateral portfolio case config = .ok c) {least : Decimal}
    (hl : config.minCollateral = .ok least) : c.Same least := by
  have stake := zero (defined_of_stake h).1
  obtain ⟨y, reads, nonneg⟩ := CollateralConfig.minCollateral_reads hl
  obtain ⟨risk, scaled, least', raised, product, floor, larger⟩ :=
    requiredCollateral_eq_ok.mp h
  obtain rfl := Except.ok.inj (hl.symm.trans floor)
  obtain ⟨risk', raised', riskZero⟩ := stake.larger reads_zero
  obtain rfl := Except.ok.inj (raised.symm.trans raised')
  rw [max_self] at riskZero
  have scaledZero :=
    riskZero.zero_of_mul product (le_refl_left (le_larger_left larger))
  obtain ⟨c', larger', value⟩ := scaledZero.larger reads
  obtain rfl := Except.ok.inj (larger.symm.trans larger')
  rw [max_eq_right (nonneg upper)] at value
  exact value.trans reads.symm

/-- Zero at stake is no obstacle to an amount. -/
theorem requiredCollateral_returns {case : Case}
    (zero : (portfolio.atStake case).Reads 0)
    (multiplier : case.multiplier.isFinite) {least : Decimal}
    (hl : config.minCollateral = .ok least) :
    ∃ a, requiredCollateral portfolio case config = .ok a := by
  obtain ⟨y, reads, -⟩ := CollateralConfig.minCollateral_reads hl
  obtain ⟨risk, raised, riskZero⟩ := zero.larger reads_zero
  rw [max_self] at riskZero
  obtain ⟨scaled, product, scaledZero⟩ := zero_mul_returns riskZero multiplier
  obtain ⟨a, larger, -⟩ := scaledZero.larger reads
  exact ⟨a, requiredCollateral_eq_ok.mpr ⟨risk, scaled, least, raised,
    product, hl, larger⟩⟩

end Zero

/-! ### Amounts -/

namespace Estimator

variable {live : LiveModel} {estimator : Estimator}

/-- The steps to what is locked for an answer. -/
theorem forResponse_eq_ok {rfq : Rfq} {response : Response} {locked : Decimal} :
    estimator.forResponse live rfq response = .ok locked ↔
      ∃ cases s amounts, rfq.makerCases response = .ok cases ∧ cases ≠ [] ∧
        estimator.statistics live rfq.legs rfq.period = .ok s ∧
        List.Forall₂
          (fun c a => requiredCollateral s.portfolio c estimator.config = .ok a)
          cases amounts ∧
        largest amounts = .ok locked := by
  rw [forResponse, bind_eq_ok]
  constructor
  · rintro ⟨_ | ⟨c, cases⟩, hcases, h⟩
    · cases h
    · rw [if_neg (by simp)] at h
      obtain ⟨amounts, required, h⟩ := bind_eq_ok.mp h
      obtain ⟨s, hs, each⟩ := required_eq_ok.mp required
      exact ⟨c :: cases, s, amounts, hcases, List.cons_ne_nil c cases, hs, each,
        lift_eq_ok.mp h⟩
  · rintro ⟨cases, s, amounts, hcases, some, hs, each, h⟩
    refine ⟨cases, hcases, ?_⟩
    rw [if_neg (by simpa using some)]
    exact bind_eq_ok.mpr
      ⟨amounts, required_eq_ok.mpr ⟨s, hs, each⟩, lift_eq_ok.mpr h⟩

/-- The amounts that an estimator asks for legs: in a case, to make a request
for a number of times the legs, to answer a request, and to confirm an
answer. -/
inductive Asks (live : LiveModel) (estimator : Estimator) : List Leg → Decimal →
    Prop
  | case {legs : List Leg} {cases : List Case} {period : Value}
      {amounts : List Decimal} {a : Decimal}
      (required : estimator.required live legs cases period = .ok amounts)
      (mem : a ∈ amounts) :
      Asks live estimator legs a
  | request {rfq : Rfq} {multiplier a : Decimal}
      (size : rfq.fixedSize = .base multiplier)
      (locked : estimator.forRequest live rfq = .ok a) :
        Asks live estimator rfq.legs a
  | response {rfq : Rfq} {response : Response} {a : Decimal}
      (locked : estimator.forResponse live rfq response = .ok a) :
        Asks live estimator rfq.legs a
  | confirmation {rfq : Rfq} {response : Response} {side : QuoteSide}
      {own : Option Decimal} {a : Decimal}
      (locked : estimator.forConfirmation live rfq response side own = .ok a) :
        Asks live estimator rfq.legs a

/-- Whatever an estimator asks for legs, a case requires of their statistics. -/
theorem Asks.exists_case {legs : List Leg} {a : Decimal}
    (h : estimator.Asks live legs a) :
    ∃ period s c, estimator.statistics live legs period = .ok s ∧
      requiredCollateral s.portfolio c estimator.config = .ok a := by
  rcases h with ⟨required, mem⟩ | ⟨size, locked⟩ | locked | locked
  · obtain ⟨s, hs, each⟩ := required_eq_ok.mp required
    obtain ⟨c, -, required⟩ := exists_of_forall₂ each mem
    exact ⟨_, s, c, hs, required⟩
  · obtain ⟨sides, s, amounts, hsides, hs, each, h⟩ :=
      (forRequest_eq_ok size).mp locked
    obtain ⟨side, -, required⟩ :=
      exists_of_forall₂ each (isGreatest_of_sides hsides each h).1
    exact ⟨_, s, _, hs, required⟩
  · obtain ⟨cases, s, amounts, -, some, hs, each, h⟩ := forResponse_eq_ok.mp locked
    have greatest := isGreatest_of_required each some h
    obtain ⟨c, -, required⟩ := exists_of_forall₂ each greatest.1
    exact ⟨_, s, c, hs, required⟩
  · obtain ⟨m, s, -, hs, required⟩ := forConfirmation_eq_ok.mp locked
    exact ⟨_, s, _, hs, required⟩

/-- The steps from legs to an evaluation. -/
theorem evaluate_eq_ok {legs : List Leg} {cases : List Case} {period : Value}
    {e : Evaluation} :
    estimator.evaluate live legs cases period = .ok e ↔
      ∃ now positions infos s required, estimator.clock.toWhole = .ok now ∧
        estimator.positions legs = .ok positions ∧
        estimator.assets positions = .ok infos ∧
        portfolioStatistics live positions infos estimator.categories
          estimator.config period now = .ok s ∧
        List.Forall₂
          (fun c r => ∃ a, requiredCollateral s.portfolio c estimator.config =
            .ok a ∧ (c, a) = r)
          cases required ∧
        ⟨infos, s.assets, s.portfolio, required, period, now⟩ = e := by
  simp only [evaluate, bind_eq_ok, pure_eq_ok, mapM_eq_ok, lift_eq_ok]
  constructor
  · rintro ⟨now, clock, positions, resolved, infos, found, s, statistics,
      required, each, rfl⟩
    exact ⟨now, positions, infos, s, required, clock, resolved, found,
      statistics, each, rfl⟩
  · rintro ⟨now, positions, infos, s, required, clock, resolved, found,
      statistics, each, rfl⟩
    exact ⟨now, clock, positions, resolved, infos, found, s, statistics,
      required, each, rfl⟩

/-- What the statistics without legs are made from. -/
theorem statistics_nil {period : Value} {s : PortfolioStatistics} :
    estimator.statistics live [] period = .ok s ↔
      (∃ now, estimator.clock.toWhole = .ok now) ∧ s.assets = [] ∧
        Portfolio.ofStatistics [] estimator.config = .ok s.portfolio := by
  have resolved : estimator.positions [] = .ok [] := rfl
  have found : estimator.assets [] = .ok [] := by
    rw [assets_eq]
    rfl
  simp only [statistics, resolved, found, bind_eq_ok, Except.ok.injEq,
    exists_eq_left', portfolioStatistics_eq_ok]
  constructor
  · rintro ⟨now, clock, groups, rollUp⟩
    have none : s.assets = [] := List.forall₂_nil_left_iff.mp groups
    rw [none] at rollUp
    exact ⟨⟨now, clock⟩, none, rollUp⟩
  · rintro ⟨⟨now, clock⟩, none, rollUp⟩
    refine ⟨now, clock, ?_, ?_⟩
    · rw [none]
      exact .nil
    · rw [none]
      exact rollUp

/-- **The floor.**  Whatever is a NaN or an infinity in an estimator, in legs,
in cases or in requests:

* no amount that is asked for is a NaN or below the least collateral, and
  without legs it is the least collateral unless the minimum is below zero;
* an evaluation that returns has no NaN among the statistics of base assets,
  and had none among the values of the positions, in the current market and
  after each shock, or among the figures at stake and the multipliers of its
  cases;
* without legs and with finite factors and multipliers there is an amount for
  each case. -/
theorem floor_containment (live : LiveModel) (estimator : Estimator) :
    (∀ legs a, estimator.Asks live legs a → a.isNaN = false ∧
      ∃ least, estimator.config.minCollateral = .ok least ∧ least ≤ a ∧
        (legs = [] → 0 ≤ estimator.config.minimum → a.Same least)) ∧
    (∀ legs cases period e, estimator.evaluate live legs cases period = .ok e →
      (∀ entry ∈ e.statistics, entry.2.biggestProfit.isNaN = false ∧
        entry.2.biggestLoss.isNaN = false ∧
        entry.2.grossValue.isNaN = false) ∧
      (∀ positions, estimator.positions legs = .ok positions → ∀ p ∈ positions,
        ∃ info category, Keyed.get? p.baseAsset e.assets = some info ∧
          Keyed.get? info.category estimator.categories = some category ∧
          p.Valued live (info.market category) e.instant ∧
          ∀ scenarios, category.variants period
            (withOption (positions.filter fun q => q.baseAsset = p.baseAsset)) =
              .ok scenarios →
            ∀ scenario ∈ scenarios, ∃ shocked,
              (info.market category).shocked scenario = .ok shocked ∧
              p.Valued live shocked e.instant) ∧
      ∀ c ∈ cases, (e.portfolio.atStake c).isNaN = false ∧
        c.multiplier.isNaN = false) ∧
    ∀ cases period now least overall, estimator.clock.toWhole = .ok now →
      estimator.config.minCollateral = .ok least →
      Decimal.one.add estimator.config.overallFactor = .ok overall →
      estimator.config.priceShiftFactor.isFinite →
      estimator.config.overallFactor.isFinite →
      (∀ c ∈ cases, c.multiplier.isFinite) →
      ∃ amounts, estimator.required live [] cases period = .ok amounts ∧
        amounts.length = cases.length := by
  refine ⟨?_, ?_, ?_⟩
  · intro legs a asked
    obtain ⟨period, s, c, hs, required⟩ := asked.exists_case
    obtain ⟨number, least, hl, above⟩ := floor_of_requiredCollateral required
    refine ⟨number, least, hl, above, ?_⟩
    rintro rfl upper
    exact same_of_zero_stake
      (Portfolio.zero_of_nil (statistics_nil.mp hs).2.2 c) upper required hl
  · intro legs cases period e run
    obtain ⟨now, positions, infos, s, required, -, resolved, -, statistics,
      each, rfl⟩ := evaluate_eq_ok.mp run
    refine ⟨?_, ?_, ?_⟩
    · intro entry mem
      obtain ⟨_, _, -, -, statistics⟩ := assetStatistics_of_mem statistics mem
      exact not_isNaN_of_assetStatistics statistics
    · intro positions' resolved' p hp
      obtain rfl := Except.ok.inj (resolved.symm.trans resolved')
      have key : p.baseAsset ∈ Keyed.keys s.assets := by
        rw [keys_eq statistics]
        exact List.mem_eraseDups.mpr (List.mem_map_of_mem hp)
      obtain ⟨⟨i, t⟩, mem, same⟩ := List.mem_map.mp key
      obtain ⟨info, category, found, graded, stress⟩ :=
        assetStatistics_of_mem statistics mem
      obtain rfl : i = p.baseAsset := same
      have own : p ∈ positions.filter fun q => q.baseAsset = p.baseAsset :=
        List.mem_filter.mpr ⟨hp, by simp⟩
      exact ⟨info, category, found, graded, valued_of_assetStatistics stress own⟩
    · intro c hc
      obtain ⟨r, -, a, required, -⟩ := exists_of_forall₂ each.flip hc
      obtain ⟨stake, multiplier⟩ := defined_of_stake required
      exact ⟨defined_iff.mp stake, defined_iff.mp multiplier⟩
  · intro cases period now least overall clock hl one shift finite multipliers
    obtain ⟨portfolio, rollUp, loss, profit⟩ :=
      Portfolio.nil_returns shift finite one
    have hs : estimator.statistics live [] period = .ok ⟨[], portfolio⟩ :=
      statistics_nil.mpr ⟨⟨now, clock⟩, rfl, rollUp⟩
    have each : ∀ c ∈ cases, ∃ a,
        requiredCollateral portfolio c estimator.config = .ok a := by
      intro c hc
      refine requiredCollateral_returns ?_ (multipliers c hc) hl
      rw [Portfolio.atStake]
      split_ifs
      · exact profit
      · exact loss
    choose! amount hamount using each
    refine ⟨cases.map amount, required_eq_ok.mpr ⟨_, hs, ?_⟩, List.length_map _⟩
    exact List.forall₂_map_right_iff.mpr (List.forall₂_same.mpr hamount)

end Estimator

/-- A taker's case on the ask side. -/
def Sample.ask (multiplier : Decimal) : Case :=
  ⟨multiplier, .taker, .ask⟩

/-- Infinitely many times the legs require an infinity, which is above the
least collateral; for a NaN there is no amount; and without legs the least
collateral is required. -/
theorem sample_floor :
    (∃ a, Sample.estimator.Asks Sample.live Sample.request.legs a ∧
      a = .infinity false ∧ a.isNaN = false ∧
      ∃ least, Sample.config.minCollateral = .ok least ∧ least ≤ a) ∧
    (∃ e, Sample.estimator.evaluate Sample.live Sample.request.legs
      [Sample.ask (.infinity false)] (.whole 3600) =
        .ok e ∧
      ∀ entry ∈ e.statistics, entry.2.biggestProfit.isNaN = false ∧
        entry.2.biggestLoss.isNaN = false ∧
        entry.2.grossValue.isNaN = false) ∧
    Sample.estimator.required Sample.live Sample.request.legs
      [Sample.ask (.nan false false 0)] (.whole 3600) =
        .error (.signal .invalidOperation) ∧
    ∃ amounts, Sample.estimator.required Sample.live []
      [Sample.ask (.ofInt 1000)] (.whole 3600) = .ok amounts ∧
      amounts.length = 1 ∧ ∀ a ∈ amounts, ∃ least,
      Sample.config.minCollateral = .ok least ∧ a.Same least := by
  have run : Sample.estimator.required Sample.live Sample.request.legs
      [Sample.ask (.infinity false)] (.whole 3600) = .ok [.infinity false] := by
        decide +kernel
  obtain ⟨amount, evaluation, empty⟩ :=
    Estimator.floor_containment Sample.live Sample.estimator
  have asked :
      Sample.estimator.Asks Sample.live Sample.request.legs (.infinity false) :=
    .case run (List.mem_singleton_self _)
  obtain ⟨number, least, hl, above, -⟩ := amount _ _ asked
  obtain ⟨e, evaluated, -⟩ := bind_eq_ok.mp run
  obtain ⟨amounts, none, length⟩ := empty [Sample.ask (.ofInt 1000)]
    (.whole 3600) 0
    (.finite false 5000000 (-6)) (.finite false 11 (-1)) rfl (by decide +kernel)
    (by decide +kernel) rfl rfl (by simp [Sample.ask, ofInt, isFinite])
  refine ⟨⟨_, asked, rfl, number, least, hl, above⟩,
    ⟨e, evaluated, (evaluation _ _ _ _ evaluated).1⟩, by decide +kernel,
    amounts, none, length, ?_⟩
  intro a ha
  obtain ⟨-, least, hl, -, same⟩ := amount [] a (.case none ha)
  exact ⟨least, hl, same rfl (by decide)⟩

end ScenarioMargin
