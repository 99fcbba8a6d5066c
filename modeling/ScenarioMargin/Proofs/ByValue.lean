/-
ScenarioMargin/Proofs/ByValue.lean

The engine takes numbers by value.  Two evaluations whose figures stand for the
same numbers, in whatever spellings, return together, and what they return
stands for the same numbers: for each base asset, for the portfolio and for
each case.

There is one lemma for each function of the engine, and it follows the
function's code by the rules of `Proofs.Agree`.  The price of a live option
comes from a model, of which it is assumed that it takes the figures of a
market by value (`LiveModel.ByValue`).  The price of an expired option is
computed in binary numbers, and these do not show a spelling either
(`Proofs.Decimal.Binary`).

Main result: `Estimator.evaluate_same`.
-/
import ScenarioMargin.Proofs.Decimal.Binary
import ScenarioMargin.Proofs.Mirror
import ScenarioMargin.Proofs.Stops

namespace ScenarioMargin

open Decimal

/-! ### Figures in two spellings -/

/-- Markets with the same figures. -/
structure Market.Same (m m' : Market) : Prop where
  price : m.price.Same m'.price
  volatility : m.volatility.Same m'.volatility
  rate : m.rate.Same m'.rate

/-- Scenarios with the same changes. -/
structure Scenario.Same (s s' : Scenario) : Prop where
  price : s.priceChange.Same s'.priceChange
  volatility : s.volatilityChange.Same s'.volatilityChange

/-- Risk categories with the same figures. -/
structure CategoryInfo.Same (c c' : CategoryInfo) : Prop where
  rate : c.rate.Same c'.rate
  volatility : c.volatility.Same c'.volatility
  scenarios : List.Forall₂ Scenario.Same c.scenarios c'.scenarios

/-- Parameters of the engine with the same factors. -/
structure CollateralConfig.Same (c c' : CollateralConfig) : Prop where
  priceShift : c.priceShiftFactor.Same c'.priceShiftFactor
  overall : c.overallFactor.Same c'.overallFactor
  minimum : c.minimum = c'.minimum
  mintDecimals : c.mintDecimals = c'.mintDecimals
  variableSize : c.variableSize = c'.variableSize
  fixedQuote : c.fixedQuote = c'.fixedQuote

/-- Base assets with the same price. -/
structure AssetInfo.Same (i i' : AssetInfo) : Prop where
  category : i.category = i'.category
  price : i.price.Same i'.price

/-- Legs of the same amount; their payloads have the same bytes. -/
structure Leg.Same (l l' : Leg) : Prop where
  baseAsset : l.baseAsset = l'.baseAsset
  amount : l.amount.Same l'.amount
  side : l.side = l'.side
  program : l.program = l'.program
  data : l.data = l'.data

/-- Positions of the same amount in the same instrument. -/
structure Position.Same (p p' : Position) : Prop where
  baseAsset : p.baseAsset = p'.baseAsset
  amount : p.amount.Same p'.amount
  side : p.side = p'.side
  instrument : p.instrument = p'.instrument

/-- Cases for the same multiple of the legs. -/
structure Case.Same (c c' : Case) : Prop where
  multiplier : c.multiplier.Same c'.multiplier
  authority : c.authority = c'.authority
  side : c.side = c'.side

/-- Statistics of base assets with the same figures. -/
structure AssetStatistics.Same (s s' : AssetStatistics) : Prop where
  best : s.biggestProfit.Same s'.biggestProfit
  worst : s.biggestLoss.Same s'.biggestLoss
  gross : s.grossValue.Same s'.grossValue
  count : s.scenarioCount = s'.scenarioCount

/-- Portfolios with the same loss and the same profit. -/
structure Portfolio.Same (p p' : Portfolio) : Prop where
  loss : p.maxLoss.Same p'.maxLoss
  profit : p.maxProfit.Same p'.maxProfit

/-- A model that takes the figures of a market by value. -/
def LiveModel.ByValue (live : LiveModel) : Prop :=
  ∀ (kind : OptionKind) (strike : Decimal) (expiration now : Int)
    (market market' : Market), market.Same market' →
    Agree False Decimal.Same (live kind strike expiration now market)
      (live kind strike expiration now market')

/-! ### Positions -/

variable {live : LiveModel} {market market' : Market} {now : Int}

/-- The price of an option goes by the values of the market's figures. -/
theorem optionPrice_same (byValue : live.ByValue) (kind : OptionKind)
    (strike : Decimal) (expiration : Int) (h : market.Same market') :
    Agree False Decimal.Same (optionPrice live kind strike expiration now market)
      (optionPrice live kind strike expiration now market') := by
  rw [optionPrice, optionPrice]
  split_ifs
  · exact byValue kind strike expiration now market market' h
  · -- binary numbers show no spelling but the sign of zero, and an intrinsic
    -- value not even that
    refine h.price.asFloat.bind fun spot spot' spots => ?_
    refine (Same.refl strike).asFloat.bind fun exercise exercise' strikes => ?_
    refine h.volatility.asFloat.bind fun _ _ _ => ?_
    refine h.rate.asFloat.bind fun _ _ _ => ?_
    rw [intrinsic_eq kind spots strikes]
    exact .pure (Same.refl _)

theorem Instrument.value_same (byValue : live.ByValue) (h : market.Same market')
    (instrument : Instrument) :
    Agree False Decimal.Same (instrument.value live market now)
      (instrument.value live market' now) := by
  cases instrument with
  | spot => exact .ok h.price
  | termFuture amount => exact (h.price.mul (Same.refl amount)).lift
  | perpFuture amount => exact (h.price.mul (Same.refl amount)).lift
  | option kind amount strike expiration =>
    exact (optionPrice_same byValue kind strike expiration h).bind fun _ _ same =>
      (same.mul (Same.refl amount)).lift
  | unrecognised => exact .error fun _ => rfl

variable {p p' : Position}

theorem Position.Same.exposure (h : p.Same p') :
    Agree False Decimal.Same p.exposure p'.exposure := by
  rw [Position.exposure, Position.exposure, ← h.side]
  cases p.side with
  | long => exact h.amount.neg
  | short => exact .ok h.amount

theorem Position.Same.value (byValue : live.ByValue) (h : p.Same p')
    (markets : market.Same market') :
    Agree False Decimal.Same (p.value live market now)
      (p'.value live market' now) := by
  rw [Position.value, Position.value, ← h.instrument]
  refine (Instrument.value_same byValue markets p.instrument).bind
    fun unit unit' units => ?_
  refine h.exposure.lift.bind fun exposure exposure' exposures => ?_
  exact (units.mul exposures).lift

/-! ### Scenarios -/

/-- Positions of the same amount with the same value. -/
structure SameValued (a b : Position × Decimal) : Prop where
  position : a.1.Same b.1
  value : a.2.Same b.2

theorem valuedAt_same (byValue : live.ByValue) (markets : market.Same market')
    {positions positions' : List Position}
    (h : List.Forall₂ Position.Same positions positions') :
    Agree False (List.Forall₂ SameValued) (valuedAt live market now positions)
      (valuedAt live market' now positions') := by
  refine Agree.mapM h fun p p' same => ?_
  exact (same.value byValue markets).bind fun v v' values => .pure ⟨same, values⟩

theorem Decimal.Same.changed {a a' c c' : Decimal} (h : a.Same a')
    (change : c.Same c') :
    Agree False Decimal.Same (a.changed c) (a'.changed c') :=
  ((Same.refl one).add change).bind fun _ _ factor => h.mul factor

variable {s s' : Scenario}

theorem Market.Same.shocked (h : market.Same market') (scenarios : s.Same s') :
    Agree False Market.Same (market.shocked s) (market'.shocked s') := by
  refine (h.price.changed scenarios.price).bind fun price price' prices => ?_
  refine (h.volatility.changed scenarios.volatility).bind
    fun volatility volatility' volatilities => ?_
  exact .pure ⟨prices, volatilities, h.rate⟩

theorem scenarioResult_same (byValue : live.ByValue) (markets : market.Same market')
    {valued valued' : List (Position × Decimal)}
    (h : List.Forall₂ SameValued valued valued') (scenarios : s.Same s') :
    Agree False Decimal.Same (scenarioResult live market now valued s)
      (scenarioResult live market' now valued' s') := by
  refine (markets.shocked scenarios).lift.bind fun shocked shocked' after => ?_
  refine Agree.foldlM h ?_ (Same.refl zero)
  intro sum sum' a b sums same
  refine ((same.position.value byValue after).bind fun v v' values =>
    (values.sub same.value).lift).bind ?_
  exact fun change change' changes => (sums.add changes).lift

theorem Scenario.Same.signs (h : s.Same s') :
    Agree False (List.Forall₂ Scenario.Same) s.signs s'.signs := by
  refine h.volatility.neg.bind fun volatilityFall volatilityFall' volatility => ?_
  refine h.price.neg.bind fun priceFall priceFall' price => ?_
  exact .pure (.cons h (.cons ⟨h.price, volatility⟩
    (.cons ⟨price, h.volatility⟩ (.cons ⟨price, volatility⟩ .nil))))

theorem Scenario.Same.priceSigns (h : s.Same s') :
    Agree False (List.Forall₂ Scenario.Same) s.priceSigns s'.priceSigns := by
  refine h.price.neg.bind fun priceFall priceFall' price => ?_
  exact .pure (.cons ⟨h.price, Same.refl zero⟩ (.cons ⟨price, Same.refl zero⟩ .nil))

theorem CategoryInfo.Same.variants {category category' : CategoryInfo}
    (h : category.Same category') (period : Value) (withOption : Bool) :
    Agree False (List.Forall₂ Scenario.Same) (category.variants period withOption)
      (category'.variants period withOption) := by
  refine Agree.bind_self _ fun b => ?_
  have base : (category.scenario b).Same (category'.scenario b) :=
    h.scenarios.get _ _
  cases withOption
  · exact base.priceSigns.lift
  · exact base.signs.lift

/-! ### Base assets -/

/-- Extremes with the same best and the same worst result. -/
structure Extremes.Same (e f : Extremes) : Prop where
  best : e.best.Same f.best
  worst : e.worst.Same f.worst

theorem Extremes.Same.take {e f : Extremes} (h : e.Same f) {r r' : Decimal}
    (results : r.Same r') :
    Agree False Extremes.Same (e.take r) (f.take r') := by
  refine (h.best.larger results).bind fun best best' bests => ?_
  exact (h.worst.smaller results).bind fun worst worst' worsts =>
    .pure ⟨bests, worsts⟩

theorem withOption_same {positions positions' : List Position}
    (h : List.Forall₂ Position.Same positions positions') :
    withOption positions = withOption positions' := by
  have instruments : positions.map Position.instrument =
      positions'.map Position.instrument :=
    map_eq_of_forall₂ h fun _ _ same => same.instrument
  have any (ps : List Position) : withOption ps =
      (ps.map Position.instrument).any Instrument.isOption := by
    rw [withOption, List.any_map]
    rfl
  rw [any, any, instruments]

theorem grossValue_same {values values' : List Decimal}
    (h : List.Forall₂ Decimal.Same values values') :
    Agree False Decimal.Same (grossValue values) (grossValue values') := by
  refine Agree.foldlM h ?_ (Same.refl zero)
  intro sum sum' v v' sums same
  exact same.abs.bind fun m m' magnitudes => sums.add magnitudes

theorem AssetInfo.market_same {info info' : AssetInfo} (h : info.Same info')
    {category category' : CategoryInfo} (categories : category.Same category') :
    (info.market category).Same (info'.market category') :=
  ⟨h.price, categories.volatility, categories.rate⟩

/-- The statistics of a base asset go by the values of its figures. -/
theorem assetStatistics_same (byValue : live.ByValue)
    {positions positions' : List Position}
    (h : List.Forall₂ Position.Same positions positions')
    {info info' : AssetInfo} (infos : info.Same info')
    {category category' : CategoryInfo} (categories : category.Same category')
    (period : Value) :
    Agree False AssetStatistics.Same
      (assetStatistics live positions info category period now)
      (assetStatistics live positions' info' category' period now) := by
  have markets := AssetInfo.market_same infos categories
  rw [assetStatistics, assetStatistics, ← withOption_same h]
  refine (valuedAt_same byValue markets h).bind fun valued valued' same => ?_
  refine (categories.variants period (withOption positions)).bind
    fun scenarios scenarios' stressed => ?_
  -- sameness of the extremes is the invariant of the loop over the scenarios
  have extremes : Agree False Extremes.Same
      (scenarios.foldlM (fun e s => do
        e.take (← scenarioResult live (info.market category) now valued s))
        Extremes.start)
      (scenarios'.foldlM (fun e s => do
        e.take (← scenarioResult live (info'.market category') now valued' s))
        Extremes.start) := by
    refine Agree.foldlM stressed ?_ ⟨rfl, rfl⟩
    intro e f s s' found scenario
    refine (scenarioResult_same byValue markets same scenario).bind ?_
    exact fun r r' results => (found.take results).lift
  refine extremes.bind fun e f found => ?_
  have values : List.Forall₂ Decimal.Same (valued.map Prod.snd)
      (valued'.map Prod.snd) := by
    rw [List.forall₂_map_left_iff, List.forall₂_map_right_iff]
    exact same.imp fun _ _ valued => valued.value
  exact (grossValue_same values).lift.bind fun gross gross' sums =>
    .pure ⟨found.best, found.worst, sums, stressed.length_eq⟩

/-! ### Roll-up -/

/-- Sums over base assets that are the same. -/
structure Totals.Same (t u : Totals) : Prop where
  profits : t.profits.Same u.profits
  losses : t.losses.Same u.losses
  gross : t.gross.Same u.gross

theorem Totals.Same.take {t u : Totals} (h : t.Same u) {s s' : AssetStatistics}
    (statistics : s.Same s') :
    Agree False Totals.Same (t.take s) (u.take s') := by
  refine (h.profits.add statistics.best).bind fun profits profits' forward => ?_
  refine (h.losses.sub statistics.worst).bind fun losses losses' backward => ?_
  exact (h.gross.add statistics.gross).bind fun gross gross' sums =>
    .pure ⟨forward, backward, sums⟩

variable {config config' : CollateralConfig}

theorem Portfolio.ofStatistics_same {groups groups' : List AssetStatistics}
    (h : List.Forall₂ AssetStatistics.Same groups groups')
    (configs : config.Same config') :
    Agree False Portfolio.Same (Portfolio.ofStatistics groups config)
      (Portfolio.ofStatistics groups' config') := by
  have totals : Agree False Totals.Same (groups.foldlM Totals.take Totals.start)
      (groups'.foldlM Totals.take Totals.start) :=
    Agree.foldlM h (fun t u s s' sums statistics => sums.take statistics)
      ⟨rfl, rfl, rfl⟩
  refine totals.bind fun t u sums => ?_
  refine (sums.gross.mul configs.priceShift).bind fun buffer buffer' buffers => ?_
  refine (sums.profits.add buffers).bind fun profits profits' forward => ?_
  refine (sums.losses.add buffers).bind fun losses losses' backward => ?_
  refine ((Same.refl one).add configs.overall).bind
    fun overall overall' factors => ?_
  refine (backward.mul factors).bind fun loss loss' largest => ?_
  exact (forward.mul factors).bind fun profit profit' most => .pure ⟨largest, most⟩

theorem Portfolio.Same.atStake {portfolio portfolio' : Portfolio}
    (h : portfolio.Same portfolio') {c c' : Case} (asked : c.Same c') :
    (portfolio.atStake c).Same (portfolio'.atStake c') := by
  have inverted : c.isInverted = c'.isInverted := by
    rw [Case.isInverted, Case.isInverted, asked.side, asked.authority]
  rw [Portfolio.atStake, Portfolio.atStake, inverted]
  split_ifs
  · exact h.profit
  · exact h.loss

theorem requiredCollateral_same {portfolio portfolio' : Portfolio}
    (h : portfolio.Same portfolio') {c c' : Case} (asked : c.Same c')
    (configs : config.Same config') :
    Agree False Decimal.Same (requiredCollateral portfolio c config)
      (requiredCollateral portfolio' c' config') := by
  -- of the parameters only those of the mint matter here, and these are whole
  -- numbers
  have least : config.minCollateral = config'.minCollateral := by
    rw [CollateralConfig.minCollateral, CollateralConfig.minCollateral,
      configs.minimum, configs.mintDecimals]
  have required : requiredCollateral portfolio' c' config' =
      requiredCollateral portfolio' c' config := by
    rw [requiredCollateral, requiredCollateral, least]
  rw [required]
  exact requiredCollateral_congr (h.atStake asked) asked.multiplier config

/-! ### Portfolios -/

theorem baseAssets_same {positions positions' : List Position}
    (h : List.Forall₂ Position.Same positions positions') :
    positions.map Position.baseAsset = positions'.map Position.baseAsset :=
  map_eq_of_forall₂ h fun _ _ same => same.baseAsset

/-- Positions of the same amounts fall into groups of positions of the same
amounts. -/
theorem positionsByAsset_same {positions positions' : List Position}
    (h : List.Forall₂ Position.Same positions positions') :
    Keyed.Matches (List.Forall₂ Position.Same) (positionsByAsset positions)
      (positionsByAsset positions') := by
  rw [positionsByAsset_eq, positionsByAsset_eq, ← baseAssets_same h,
    Keyed.Matches, List.forall₂_map_left_iff, List.forall₂_map_right_iff,
    List.forall₂_same]
  intro i _
  refine ⟨rfl, List.rel_filter ?_ h⟩
  intro p p' same
  simp only [decide_eq_true_eq, same.baseAsset]

variable {infos infos' : Keyed Int AssetInfo}
  {categories categories' : CategoryTable}

theorem groupStatistics_same (byValue : live.ByValue)
    (assets : Keyed.Matches AssetInfo.Same infos infos')
    (table : Keyed.Matches CategoryInfo.Same categories categories')
    (period : Value) {group group' : Int × List Position}
    (key : group.1 = group'.1)
    (h : List.Forall₂ Position.Same group.2 group'.2) :
    Agree False (fun a b => a.1 = b.1 ∧ a.2.Same b.2)
      (groupStatistics live infos categories period now group)
      (groupStatistics live infos' categories' period now group') := by
  rw [groupStatistics, groupStatistics, ← key]
  -- a base asset that is missing from a table is missing from the other one,
  -- too
  have found := assets.get? group.1
  generalize Keyed.get? group.1 infos = held,
    Keyed.get? group.1 infos' = held' at found ⊢
  cases found with
  | none => exact .error False.elim
  | @some info info' same =>
    dsimp only
    rw [← same.category]
    have figures := table.get? info.category
    generalize Keyed.get? info.category categories = graded,
      Keyed.get? info.category categories' = graded' at figures ⊢
    cases figures with
    | none => exact .error False.elim
    | some graded =>
      exact (assetStatistics_same byValue h same graded period).bind
        fun _ _ statistics => .pure ⟨rfl, statistics⟩

/-- Statistics of positions that are the same, asset by asset and as a whole. -/
structure PortfolioStatistics.Same (s t : PortfolioStatistics) : Prop where
  assets : Keyed.Matches AssetStatistics.Same s.assets t.assets
  portfolio : s.portfolio.Same t.portfolio

theorem portfolioStatistics_same (byValue : live.ByValue)
    {positions positions' : List Position}
    (h : List.Forall₂ Position.Same positions positions')
    (assets : Keyed.Matches AssetInfo.Same infos infos')
    (table : Keyed.Matches CategoryInfo.Same categories categories')
    (configs : config.Same config') (period : Value) :
    Agree False PortfolioStatistics.Same
      (portfolioStatistics live positions infos categories config period now)
      (portfolioStatistics live positions' infos' categories' config'
        period now) := by
  refine (Agree.mapM (positionsByAsset_same h) fun group group' same =>
    groupStatistics_same byValue assets table period same.1 same.2).bind ?_
  intro groups groups' statistics
  refine (Portfolio.ofStatistics_same
    (Keyed.Matches.values statistics) configs).lift.bind ?_
  exact fun portfolio portfolio' same => .pure ⟨statistics, same⟩

/-! ### Evaluations -/

/-- Values at an address that are read as the same price. -/
def Value.SamePrice (v v' : Value) : Prop :=
  ∀ address, Agree False Decimal.Same (OracleValue.price address (.value v))
    (OracleValue.price address (.value v'))

/-- What the evaluations of two estimators produce. -/
structure Evaluation.Same (e e' : Evaluation) : Prop where
  assets : Keyed.Matches AssetInfo.Same e.assets e'.assets
  statistics : Keyed.Matches AssetStatistics.Same e.statistics e'.statistics
  portfolio : e.portfolio.Same e'.portfolio
  required : List.Forall₂
    (fun a b => a.1.Same b.1 ∧ a.2.Same b.2) e.required e'.required
  period : e.period = e'.period
  instant : e.instant = e'.instant

namespace Estimator

/-- Estimators with the same figures. -/
structure Same (e e' : Estimator) : Prop where
  config : e.config.Same e'.config
  categories : Keyed.Matches CategoryInfo.Same e.categories e'.categories
  registry : e.registry = e'.registry
  profiles : e.profiles = e'.profiles
  prices : Keyed.Matches Value.SamePrice e.prices e'.prices
  clock : e.clock = e'.clock

variable {estimator estimator' : Estimator} (h : estimator.Same estimator')

include h

theorem Same.position {leg leg' : Leg} (same : leg.Same leg') :
    Agree False Position.Same (estimator.position leg)
      (estimator'.position leg') := by
  rw [Estimator.position, Estimator.position, Estimator.kind, Estimator.kind,
    h.registry, same.program, same.data]
  refine Agree.bind_self _ fun kind => ?_
  refine Agree.bind_self _ fun instrument => ?_
  exact .pure ⟨same.baseAsset, same.amount, same.side, rfl⟩

theorem Same.info (index : Int) : Agree False AssetInfo.Same
    (estimator.info index) (estimator'.info index) := by
  rw [Estimator.info, Estimator.info, Estimator.profile,
    Estimator.profile, h.profiles]
  refine Agree.bind_self _ fun profile => ?_
  have price : Agree False Decimal.Same (estimator.price profile.oracle)
      (estimator'.price profile.oracle) := by
    rw [Estimator.price, Estimator.price]
    have found := h.prices.get? profile.oracle
    generalize Keyed.get? profile.oracle estimator.prices = held,
      Keyed.get? profile.oracle estimator'.prices = held' at found ⊢
    cases found with
    | none => exact .error False.elim
    | some same => exact same profile.oracle
  exact price.bind fun price price' prices => .pure ⟨rfl, prices⟩

theorem Same.assets {positions positions' : List Position}
    (same : List.Forall₂ Position.Same positions positions') :
    Agree False (Keyed.Matches AssetInfo.Same) (estimator.assets positions)
      (estimator'.assets positions') := by
  rw [assets_eq, assets_eq, baseAssets_same same]
  refine Agree.mapM (beside_itself _) ?_
  rintro i _ ⟨rfl, _⟩
  exact (h.info i).bind fun info info' infos => .pure ⟨rfl, infos⟩

/-- **Numbers by value.**  Estimators with the same figures evaluate legs of
the same amounts in the same cases alike: both return or neither does, and what
they return is the same, figure by figure. -/
theorem evaluate_same {live : LiveModel} (byValue : live.ByValue)
    {legs legs' : List Leg} (same : List.Forall₂ Leg.Same legs legs')
    {cases cases' : List Case} (asked : List.Forall₂ Case.Same cases cases')
    (period : Value) :
    Agree False Evaluation.Same (estimator.evaluate live legs cases period)
      (estimator'.evaluate live legs' cases' period) := by
  rw [evaluate, evaluate, h.clock]
  refine Agree.bind_self _ fun now => ?_
  refine (Agree.mapM same fun _ _ leg => h.position leg).bind
    fun positions positions' resolved => ?_
  refine (h.assets resolved).bind fun infos infos' assets => ?_
  refine (portfolioStatistics_same byValue resolved assets h.categories h.config
    period).bind ?_
  intro statistics statistics' figures
  refine (Agree.mapM (S := fun a b => a.1.Same b.1 ∧ a.2.Same b.2) asked
    fun c c' same => ?_).bind ?_
  · exact (requiredCollateral_same figures.portfolio same h.config).lift.bind
      fun r r' amounts => .pure ⟨same, amounts⟩
  · exact fun r r' amounts =>
      .pure ⟨assets, figures.assets, figures.portfolio, amounts, rfl, rfl⟩

end Estimator

end ScenarioMargin
