/-
ScenarioMargin/Proofs/Linear.lean

Positions without options, in closed form.  With price `P`, price change `p`
and a net holding `N` of the base asset, the two scenarios have the results
`P · p · N` and `-(P · p · N)`, whatever the signs of the three.  The greater
of the two is the magnitude, and the gross value is `|P|` times the sum of the
magnitudes of the holdings (`Reference.linear`).

The way there is that of `Proofs.Unrounded`: where no operation has to round,
the engine attains the exact statistics.  These know a volatility as well,
which such positions do not feel (`Proofs.Dormant`).  So it need not be finite,
nor fit the precision, as long as its shock returns; it is put to rest first
(`CategoryInfo.calm`).

Such statistics are their own mirror images, and so is a portfolio of them
(`Proofs.Mirror`), in the working precision and with all roundings of the
roll-up: its greatest loss is its greatest profit, and it does not matter who
asks.

Main result: `portfolioStatistics_linear`.
-/
import ScenarioMargin.Proofs.Dormant
import ScenarioMargin.Proofs.Mirror
import ScenarioMargin.Proofs.Unrounded

namespace ScenarioMargin

open Decimal

/-! ### The formula -/

/-- The size of a contract: what one unit of an instrument holds of its base
asset. -/
def Instrument.size : Instrument → ℚ
  | .spot => 1
  | .termFuture amount => amount.number
  | .perpFuture amount => amount.number
  | .option .. => 0
  | .unrecognised => 0

theorem withOption_eq_false {positions : List Position}
    (noOption : ∀ p ∈ positions, p.instrument.isOption = false) :
    withOption positions = false :=
  List.any_eq_false.mpr fun p hp => Bool.eq_false_iff.mp (noOption p hp)

namespace Reference

/-- What a position holds of its base asset, a long one counting negative. -/
def holding (p : Position) : ℚ :=
  signed p * p.instrument.size

/-- What positions hold together. -/
def net (positions : List Position) : ℚ :=
  (positions.map holding).sum

/-- The magnitudes of what positions hold. -/
def turnover (positions : List Position) : ℚ :=
  (positions.map fun p => |holding p|).sum

/-- The statistics of positions without options, for a price and its change. -/
def linear (price change : ℚ) (positions : List Position) : Exact.Statistics :=
  ⟨|price * change * net positions|, -|price * change * net positions|,
    |price| * turnover positions⟩

/-- What is at stake in base assets, on either side: their profits with the
buffer, times the overall factor. -/
def balance (config : CollateralConfig) (groups : List Exact.Statistics) : ℚ :=
  ((groups.map Exact.Statistics.best).sum +
    (groups.map Exact.Statistics.gross).sum * config.priceShiftFactor.number)
    * (1 + config.overallFactor.number)

/-- What is required for a figure at stake and a multiplier, whoever asks. -/
def charge (config : CollateralConfig) (figure multiplier : ℚ) : ℚ :=
  max (max figure 0 * multiplier) (config.minimum * 10 ^ (-config.mintDecimals))

variable {u : OptionPrice} {f : Figures} {positions : List Position}

theorem unit_linear {i : Instrument} (other : i.isOption = false) :
    unit u f i = f.price * i.size := by
  cases i with
  | spot => exact (mul_one _).symm
  | termFuture amount | perpFuture amount => rfl
  | option kind amount strike expiration => cases other
  | unrecognised => exact (mul_zero _).symm

theorem worth_linear {p : Position} (other : p.instrument.isOption = false) :
    worth u f p = f.price * holding p := by
  rw [worth, holding, unit_linear other]
  ring

/-- A gain is in proportion to the price, its change and the net holding. -/
theorem gain_linear (noOption : ∀ p ∈ positions, p.instrument.isOption = false)
    (s : Shock) : gain u f positions s = f.price * s.price * net positions := by
  rw [gain, net, ← List.sum_map_mul_left]
  congr 1
  refine List.map_congr_left fun p hp => ?_
  rw [unit_linear (noOption p hp), unit_linear (noOption p hp),
    Figures.shocked, holding]
  ring

theorem gross_linear (noOption : ∀ p ∈ positions, p.instrument.isOption = false) :
    (positions.map fun p => |worth u f p|).sum =
      |f.price| * turnover positions := by
  rw [turnover, ← List.sum_map_mul_left]
  congr 1
  refine List.map_congr_left fun p hp => ?_
  rw [worth_linear (noOption p hp), abs_mul]

end Reference

namespace Exact

/-- All operations for positions without options. -/
def linear (price change : ℚ) (positions : List Position) : Exact Statistics :=
  statistics (fun _ _ _ _ => 0) ⟨price, 0, 0⟩ ⟨change, 0⟩ positions

/-- The operations compute the formula. -/
theorem linear_value {positions : List Position}
    (noOption : ∀ p ∈ positions, p.instrument.isOption = false)
    (price change : ℚ) : (linear price change positions).value =
      Reference.linear price change positions := by
  rw [linear, statistics_value, withOption_eq_false noOption,
    Reference.gross_linear noOption]
  -- the two shocks have opposed gains
  have gains : (Reference.shocks ⟨change, 0⟩ false).map
      (Reference.gain (fun _ _ _ _ => 0) ⟨price, 0, 0⟩ positions) =
        [price * change * Reference.net positions,
          -(price * change * Reference.net positions)] := by
    simp only [Reference.shocks, Bool.false_eq_true, if_false,
      List.map_cons, List.map_nil, Reference.gain_linear noOption,
      mul_neg, neg_mul]
  rw [gains, Reference.linear]
  have greatest (x : ℚ) : [x, -x].max?.getD 0 = |x| := rfl
  have least (x : ℚ) : [x, -x].min?.getD 0 = -|x| := by
    rw [abs_eq_max_neg, ← min_neg_neg, neg_neg, min_comm]
    rfl
  rw [greatest, least]

/-- A portfolio of base assets whose least results are opposed to their
greatest. -/
theorem portfolio_value {groups : List Statistics}
    (symmetric : ∀ s ∈ groups, s.worst = -s.best) (config : CollateralConfig) :
    (portfolio config groups).value =
      ⟨Reference.balance config groups, Reference.balance config groups⟩ := by
  have losses : (groups.map Statistics.worst).sum =
      -(groups.map Statistics.best).sum := by
    rw [List.sum_neg, List.map_map]
    exact congrArg List.sum (List.map_congr_left symmetric)
  rw [portfolio, value_bind, sums_value, losses]
  simp only [value_bind, value_result, value_pure, zero_add, zero_sub, neg_neg,
    Reference.balance]

theorem collateral_value (config : CollateralConfig) (c : Case) (figure : ℚ) :
    (collateral config c ⟨figure, figure⟩).value =
      Reference.charge config figure c.multiplier.number := by
  simp only [collateral, value_bind, value_result, value_pure, ite_self,
    Reference.charge]

end Exact

/-! ### Without volatility -/

/-- The category with nothing but its price changes. -/
def CategoryInfo.calm (category : CategoryInfo) : CategoryInfo :=
  ⟨.zero, .zero, category.scenarios.map fun s => ⟨s.priceChange, .zero⟩,
    by rw [List.length_map, category.complete]⟩

theorem CategoryInfo.scenario_calm (category : CategoryInfo) (b : Fin bucketCount) :
    category.calm.scenario b = ⟨(category.scenario b).priceChange, .zero⟩ := by
  rw [scenario, scenario, calm, List.get_eq_getElem, List.get_eq_getElem,
    List.getElem_map]
  rfl

/-- A volatility that fits the precision can be left as it is. -/
theorem changed_zero_returns {a : Decimal} (finite : a.isFinite)
    (fits : Exact.Fits a.number) : ∃ v, a.changed .zero = .ok v := by
  have one : Exact.Fits 1 := Exact.fits_of_scaled (k := 0) (by decide)
    (by decide +kernel) (by decide +kernel)
  have noRounding : (Exact.changed a.number 0).NoRounding := by
    intro q member
    have results : (Exact.changed a.number 0).results =
        [1 + 0, a.number * (1 + 0)] := rfl
    rw [results, add_zero, mul_one, List.mem_cons, List.mem_singleton] at member
    rcases member with rfl | rfl
    · exact one
    · exact fits
  obtain ⟨v, returns, -⟩ :=
    changed_attained (reads_number finite) reads_zero noRounding
  exact ⟨v, returns⟩

/-- Positions without options and the figures that they feel, all finite, where
no operation has to round.  Of the volatility, which they do not feel, it is
only asked that it can be left as it is. -/
structure IsLinear (positions : List Position) (info : AssetInfo)
    (category : CategoryInfo) (b : Fin bucketCount) : Prop where
  finite : ∀ p ∈ positions, p.IsFinite
  noOption : ∀ p ∈ positions, p.instrument.isOption = false
  price : info.price.isFinite
  change : (category.scenario b).priceChange.isFinite
  volatility : ∃ v, category.volatility.changed .zero = .ok v
  noRounding : (Exact.linear info.price.number
    (category.scenario b).priceChange.number positions).NoRounding

/-- The formula for positions in a base asset. -/
def linearIn (info : AssetInfo) (category : CategoryInfo) (b : Fin bucketCount)
    (positions : List Position) : Exact.Statistics :=
  Reference.linear info.price.number
    (category.scenario b).priceChange.number positions

section Group

variable {live : LiveModel} {now : Int} {positions : List Position}
  {info : AssetInfo} {category : CategoryInfo} {period : Value}
  {b : Fin bucketCount}

/-- Volatility and rate may as well be zero. -/
theorem IsLinear.assetStatistics_calm (h : IsLinear positions info category b)
    (found : bucket period = .ok b) :
    assetStatistics live positions info category period now =
      assetStatistics live positions info category.calm period now := by
  obtain ⟨v, returns⟩ := h.volatility
  obtain ⟨v', returns', -⟩ :=
    (within_zero (k := 0)).changed (within_zero (k := 0)) (by decide)
  have shock (p : Decimal) : SameShock false (info.market category)
      (info.market category.calm) ⟨p, .zero⟩ ⟨p, .zero⟩ :=
    ⟨rfl, ⟨⟨v, returns, nofun⟩, nofun⟩, ⟨⟨v', returns', nofun⟩, nofun⟩⟩
  have none := withOption_eq_false h.noOption
  rw [assetStatistics_eq, assetStatistics_eq]
  refine statisticsUnder_eq (dormant_of_not_withOption none) ?_ ?_
  all_goals rw [none]
  · exact ⟨rfl, nofun⟩
  · rw [variants_of_bucket found, variants_of_bucket found, category.scenario_calm]
    refine Agree.lift (Agree.bind_self _ fun fall => ?_)
    exact .pure (.cons (shock _) (.cons (shock _) .nil))

/-- The engine returns the statistics of the formula. -/
theorem IsLinear.assetStatistics (h : IsLinear positions info category b)
    (live : LiveModel) (now : Int) (found : bucket period = .ok b) :
    ∃ s, assetStatistics live positions info category period now = .ok s ∧
      s.Reads (linearIn info category b positions) := by
  rw [h.assetStatistics_calm found, linearIn, ← Exact.linear_value h.noOption]
  -- there is no option whose price would matter
  have priced (f : Figures) : ∀ p ∈ positions,
      Priced live (fun _ _ _ _ => 0) now p f := by
    intro p hp kind amount strike expiration instrument
    have other := h.noOption p hp
    rw [instrument] at other
    cases other
  have market : (info.market category.calm).Reads ⟨info.price.number, 0, 0⟩ :=
    ⟨reads_number h.price, reads_zero, reads_zero⟩
  have scenario : (category.calm.scenario b).Reads
      ⟨(category.scenario b).priceChange.number, 0⟩ := by
    rw [category.scenario_calm]
    exact ⟨reads_number h.change, reads_zero⟩
  exact assetStatistics_attained h.finite market found scenario (priced _)
    (fun p hp s _ => priced _ p hp) h.noRounding

/-- Statistics of the formula are their own mirror images. -/
theorem AssetStatistics.Reads.mirrors {s : AssetStatistics}
    (h : s.Reads (linearIn info category b positions)) : s.Mirrors s := by
  have opposed : s.biggestProfit.Opposed s.biggestLoss := by
    rw [Opposed, h.best, h.worst, linearIn, Reference.linear]
    exact congrArg Quantity.rational (neg_neg _).symm
  exact ⟨opposed, opposed.symm, Same.refl _, rfl⟩

end Group

/-! ### Portfolios -/

/-- The formula for each base asset of positions. -/
def Setting.linear (S : Setting) (positions : List Position) :
    List Exact.Statistics :=
  (positionsByAsset positions).map fun group =>
    linearIn (S.info group.1) (S.category group.1) S.bucket group.2

theorem Setting.linear_symmetric {S : Setting} {positions : List Position} :
    ∀ s ∈ S.linear positions, s.worst = -s.best := by
  intro s member
  obtain ⟨group, -, rfl⟩ := List.mem_map.mp member
  rfl

/-- What is at stake in positions, on either side. -/
def Setting.balance (S : Setting) (config : CollateralConfig)
    (positions : List Position) : ℚ :=
  Reference.balance config (S.linear positions)

section Portfolio

variable {live : LiveModel} {now : Int} {S : Setting}
  {positions : List Position} {infos : Keyed Int AssetInfo}
  {categories : CategoryTable} {period : Value} {config : CollateralConfig}

/-- In each base asset, positions without options where no operation has to
round. -/
def Setting.IsLinear (S : Setting) (positions : List Position) : Prop :=
  ∀ group ∈ positionsByAsset positions,
    ScenarioMargin.IsLinear group.2 (S.info group.1) (S.category group.1) S.bucket

/-- A base asset returns the statistics of the formula. -/
theorem Setting.IsLinear.group (linear : S.IsLinear positions)
    (live : LiveModel)
    (now : Int) (holds : S.Holds positions infos categories period)
    {group : Int × List Position}
    (member : group ∈ positionsByAsset positions) :
    ∃ a, groupStatistics live infos categories period now group = .ok a ∧
      a.2.Reads
        (linearIn (S.info group.1) (S.category group.1) S.bucket group.2) := by
  have law := linear group member
  obtain ⟨p, hp, rfl⟩ := mem_positionsByAsset member
  obtain ⟨s, runs, reads⟩ := law.assetStatistics live now (holds.bucket p hp)
  exact ⟨(p.baseAsset, s), groupStatistics_eq_ok.mpr ⟨_, _, holds.info p hp,
    holds.category p hp, runs, rfl⟩, reads⟩

/-- Where the roll-up does not round either, the portfolio returns with the
same figure on both sides. -/
theorem Setting.IsLinear.portfolio_reads (linear : S.IsLinear positions)
    (holds : S.Holds positions infos categories period)
    (shift : config.priceShiftFactor.isFinite)
    (overall : config.overallFactor.isFinite)
    (noRounding : (Exact.portfolio config (S.linear positions)).NoRounding) :
    ∃ s, portfolioStatistics live positions infos categories config period now =
      .ok s ∧
      s.portfolio.Reads
        ⟨S.balance config positions, S.balance config positions⟩ := by
  have each : ∀ g h : Int × List Position, g = h ∧ g ∈ positionsByAsset positions →
      Attains (fun s t => s.2.Reads t)
        (groupStatistics live infos categories period now g)
        (pure (linearIn (S.info h.1) (S.category h.1) S.bucket h.2)) := by
    rintro g _ ⟨rfl, member⟩
    obtain ⟨a, runs, reads⟩ := linear.group live now holds member
    exact .of_ok runs reads
  have returns := Attains.mapM (beside_itself (positionsByAsset positions)) each
  rw [List.mapM_pure] at returns
  obtain ⟨assets, runs, related⟩ := returns fun q hq => absurd hq List.not_mem_nil
  have reads : List.Forall₂ AssetStatistics.Reads (assets.map Prod.snd)
      (S.linear positions) :=
    List.forall₂_map_left_iff.mpr related
  obtain ⟨p, rolled, figures⟩ :=
    ofStatistics_attained reads shift overall noRounding
  rw [Exact.portfolio_value S.linear_symmetric] at figures
  exact ⟨⟨assets, p⟩,
    portfolioStatistics_eq_ok.mpr ⟨mapM_eq_ok.mp runs, rolled⟩, figures⟩

/-- The portfolio is its own mirror image, rounded or not. -/
theorem Setting.IsLinear.portfolio_mirrors (linear : S.IsLinear positions)
    (holds : S.Holds positions infos categories period) {s : PortfolioStatistics}
    (runs : portfolioStatistics live positions infos categories config period
      now = .ok s) : s.portfolio.Mirrors s.portfolio := by
  obtain ⟨groups, rolled⟩ := portfolioStatistics_eq_ok.mp runs
  have mirrors : ∀ t ∈ s.assets.map Prod.snd, t.Mirrors t := by
    intro t member
    obtain ⟨a, ha, rfl⟩ := List.mem_map.mp member
    obtain ⟨group, hg, returns⟩ := exists_of_forall₂ groups ha
    obtain ⟨a', returns', reads⟩ := linear.group live now holds hg
    rw [returns] at returns'
    obtain rfl := Except.ok.inj returns'
    exact reads.mirrors
  have law := Portfolio.ofStatistics_mirrored (List.forall₂_same.mpr mirrors) config
  rw [rolled] at law
  exact law.of_ok_ok

/-- It does not matter who asks about a portfolio that is its own mirror
image. -/
theorem Portfolio.Mirrors.atStake_self {p : Portfolio} (h : p.Mirrors p)
    (c d : Case) : (p.atStake c).Same (p.atStake d) := by
  rw [Portfolio.atStake, Portfolio.atStake]
  cases c.isInverted <;> cases d.isInverted
  · exact Same.refl _
  · exact h.loss
  · exact h.profit
  · exact Same.refl _

end Portfolio

/-- **Positions without options, in closed form.**  Positions of any number are
spot instruments and futures, and their amounts, the price and the price change
of their bucket are finite.  Where no operation has to round, their statistics
return, and stand for the formula: with price `P`, price change `p` and net
holding `N`, the greatest profit is `|P · p · N|`, the greatest loss minus
that, and the gross value `|P|` times the magnitudes of what they hold.

The portfolio of positions that are like this in each of their base assets has
the same loss and profit, and requires the same in all cases with one
multiplier, rounded or not.  Where the roll-up and a case have finite factors
and nothing to round either, both return, and what is required is a function of
the multiplier and the one figure of the portfolio. -/
theorem portfolioStatistics_linear (live : LiveModel) (period : Value) (now : Int) :
    (∀ (positions : List Position) (info : AssetInfo)
      (category : CategoryInfo) (b : Fin bucketCount),
      bucket period = .ok b → IsLinear positions info category b →
        ∃ s, assetStatistics live positions info category period now = .ok s ∧
          s.Reads (linearIn info category b positions)) ∧
    ∀ (S : Setting) (positions : List Position)
      (infos : Keyed Int AssetInfo) (categories : CategoryTable)
      (config : CollateralConfig), S.Holds positions infos categories period →
        S.IsLinear positions →
        (config.priceShiftFactor.isFinite → config.overallFactor.isFinite →
          (Exact.portfolio config (S.linear positions)).NoRounding →
            ∃ s, portfolioStatistics live positions infos categories config
              period now = .ok s ∧
              s.portfolio.Reads
                ⟨S.balance config positions, S.balance config positions⟩ ∧
              ∀ c : Case, c.multiplier.isFinite →
                config.mintDecimals.natAbs ≤ maxStep →
                (Exact.collateral config c ⟨S.balance config positions,
                  S.balance config positions⟩).NoRounding →
                ∃ r, requiredCollateral s.portfolio c config = .ok r ∧
                  r.Reads (Reference.charge config
                    (S.balance config positions) c.multiplier.number)) ∧
        ∀ s, portfolioStatistics live positions infos categories config
          period now = .ok s →
          s.portfolio.maxLoss.Same s.portfolio.maxProfit ∧
            ∀ c d : Case, c.multiplier.Same d.multiplier →
              Agree True Same (requiredCollateral s.portfolio c config)
                (requiredCollateral s.portfolio d config) := by
  refine ⟨fun positions info category b found linear =>
    linear.assetStatistics live now found, ?_⟩
  intro S positions infos categories config holds linear
  constructor
  · intro shift overall noRounding
    obtain ⟨s, runs, reads⟩ := linear.portfolio_reads holds shift overall noRounding
    refine ⟨s, runs, reads, fun c multiplier step exactly => ?_⟩
    rw [← Exact.collateral_value]
    exact requiredCollateral_attained reads multiplier step exactly
  · intro s runs
    have mirrors := linear.portfolio_mirrors holds runs
    refine ⟨mirrors.loss, fun c d multiplier => ?_⟩
    exact requiredCollateral_congr (mirrors.atStake_self c d) multiplier config

/-! ### The small book without its option -/

namespace Sample

theorem changed_volatility : ∃ v, category.volatility.changed .zero = .ok v :=
  changed_zero_returns rfl (Exact.fits_of_scaled (k := 0) (by decide)
    (by decide +kernel) (by decide +kernel))

/-- The spot position of the small book at a price. -/
theorem isLinear_spot {price : Decimal} (finite : price.isFinite)
    (digits : ∀ q ∈ (Exact.linear price.number (1 / 10) (book.take 1)).results,
      (q * 10 ^ 6).den = 1 ∧ |q * 10 ^ 6| < 10 ^ precision) :
    IsLinear (book.take 1) ⟨.low, price⟩ category ⟨1, by decide⟩ where
  finite := by
    intro p hp
    obtain rfl := List.mem_singleton.mp hp
    exact ⟨rfl, trivial⟩
  noOption := by decide
  price := finite
  change := rfl
  volatility := changed_volatility
  noRounding := by
    have change : (category.scenario ⟨1, by decide⟩).priceChange.number =
        1 / 10 := by decide +kernel
    rw [change]
    exact Exact.noRounding_of_scaled (by decide) digits

theorem isLinear_future :
    IsLinear (book.tail.take 1) (setting.info 1) category ⟨1, by decide⟩ where
  finite := by
    intro p hp
    obtain rfl := List.mem_singleton.mp hp
    exact ⟨rfl, rfl⟩
  noOption := by decide
  price := rfl
  change := rfl
  volatility := changed_volatility
  noRounding := Exact.noRounding_of_scaled (k := 6) (by decide) (by decide +kernel)

theorem isLinear_setting : setting.IsLinear (book.take 2) := by
  have groups : positionsByAsset (book.take 2) =
      [(0, book.take 1), (1, book.tail.take 1)] := by decide
  intro group member
  rw [groups, List.mem_cons, List.mem_singleton] at member
  rcases member with rfl | rfl
  · exact isLinear_spot rfl (by decide +kernel)
  · exact isLinear_future

end Sample

/-- The spot position of the small book at a negative price, and the book
without its option at the prices that it has. -/
theorem sample_linear :
    (∃ s, assetStatistics Sample.live (Sample.book.take 1)
        ⟨.low, .ofInt (-100)⟩ Sample.category (.whole 3600) 0 = .ok s ∧
        s.biggestProfit.Reads 20 ∧ s.biggestLoss.Reads (-20) ∧
        s.grossValue.Reads 200) ∧
      ∃ s, portfolioStatistics Sample.live (Sample.book.take 2) Sample.infos
          Sample.categories Sample.config (.whole 3600) 0 = .ok s ∧
        s.portfolio.maxLoss.Reads (2299 / 80) ∧
        s.portfolio.maxLoss.Same s.portfolio.maxProfit ∧
        (∃ r, requiredCollateral s.portfolio ⟨.one, .maker, .ask⟩
          Sample.config = .ok r ∧ r.Reads (2299 / 80)) ∧
        Agree True Same
          (requiredCollateral s.portfolio ⟨.one, .maker, .ask⟩ Sample.config)
          (requiredCollateral s.portfolio ⟨.one, .taker, .ask⟩
            Sample.config) := by
  have law := portfolioStatistics_linear Sample.live (.whole 3600) 0
  constructor
  · let formula := linearIn ⟨.low, .ofInt (-100)⟩ Sample.category ⟨1, by decide⟩
      (Sample.book.take 1)
    have best : formula.best = 20 := by decide +kernel
    have worst : formula.worst = -20 := by decide +kernel
    have gross : formula.gross = 200 := by decide +kernel
    obtain ⟨s, runs, reads⟩ := law.1 (Sample.book.take 1)
      ⟨.low, .ofInt (-100)⟩ Sample.category
      ⟨1, by decide⟩ rfl (Sample.isLinear_spot rfl (by decide +kernel))
    exact ⟨s, runs, best ▸ reads.best, worst ▸ reads.worst, gross ▸ reads.gross⟩
  · have holds : Sample.setting.Holds
        (Sample.book.take 2) Sample.infos Sample.categories (.whole 3600) :=
      ⟨by decide, by decide, by decide⟩
    have noRounding :
        (Exact.portfolio Sample.config
          (Sample.setting.linear (Sample.book.take 2))).NoRounding :=
      Exact.noRounding_of_scaled (k := 6) (by decide) (by decide +kernel)
    have formula : Sample.setting.balance Sample.config (Sample.book.take 2) =
        2299 / 80 := by
      decide +kernel
    obtain ⟨returns, same⟩ := law.2 Sample.setting
      (Sample.book.take 2) Sample.infos Sample.categories Sample.config holds
      Sample.isLinear_setting
    obtain ⟨s, runs, reads, asks⟩ := returns rfl rfl noRounding
    obtain ⟨equal, cases⟩ := same s runs
    rw [formula] at reads asks
    have charge :
        Reference.charge Sample.config (2299 / 80) Decimal.one.number =
          2299 / 80 := by decide +kernel
    obtain ⟨r, required, amount⟩ := asks ⟨.one, .maker, .ask⟩ rfl (by decide)
      (Exact.noRounding_of_scaled (k := 6) (by decide) (by decide +kernel))
    exact ⟨s, runs, reads.loss, equal, ⟨r, required, charge ▸ amount⟩,
      cases _ _ rfl⟩

end ScenarioMargin
