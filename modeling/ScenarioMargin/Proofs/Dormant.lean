/-
ScenarioMargin/Proofs/Dormant.lean

Only live options feel the volatility.  Two runs for the same positions, none
of them a live option, in markets of the same price and under shocks with the
same price change, have the same outcome, faults included, whatever the
volatility, the rate and the volatility change of each run.

An expired option is priced from the spot and the strike alone, but all four
figures of its market are first made binary numbers.  So with options among the
positions the volatilities and the rates must be numbers at all
(`Market.Alike`), before and after the shock; without one it is enough that the
shock of the volatility returns.  Both hold of moderate figures, which no
operation on them takes out of the range (`Decimal.Within`).

Without options two scenarios stand for the four combinations of signs: the
results of the four are those of the two, each evaluated twice, and that is of
no effect on the extremes (`Extremes.takeAll_twice`).

Main result: `assetStatistics_dormant`.
-/
import ScenarioMargin.Proofs.Extremes
import ScenarioMargin.Proofs.Stake
import ScenarioMargin.Proofs.Units

namespace ScenarioMargin

open Decimal

/-! ### Moderate figures -/

/-- A finite number of a magnitude below `10 ^ 1000`. -/
structure Decimal.IsModerate (a : Decimal) : Prop where
  finite : a.isFinite
  size : |a.number| < 10 ^ 1000

/-- A finite number of a magnitude of at most `10 ^ k`. -/
structure Decimal.Within (k : ℕ) (a : Decimal) : Prop where
  finite : a.isFinite
  size : |a.number| ≤ 10 ^ k

section Figures

variable {a b : Decimal} {k l : ℕ}

theorem Decimal.IsModerate.within (h : a.IsModerate) : a.Within 1000 :=
  ⟨h.finite, h.size.le⟩

theorem Decimal.within_zero : zero.Within k :=
  ⟨rfl, by rw [reads_zero.number, abs_zero]; positivity⟩

/-- A result of bounded magnitude is rounded to one with the same bound. -/
theorem Decimal.within_of_map {x : Except Signal Decimal} {q : ℚ}
    (h : x.map quantity = Quantity.ofRational q) (range : (k : ℤ) ≤ maxExponent)
    (size : |q| ≤ 10 ^ k) : ∃ a, x = .ok a ∧ a.Within k := by
  rw [← zpow_natCast] at size
  have tiny : tinyExponent ≤ k :=
    (show tinyExponent ≤ 0 by decide).trans (Int.natCast_nonneg k)
  have bound : |rounded q| ≤ 10 ^ (k : ℤ) := abs_rounded_le_tenPow tiny size
  have inRange : |rounded q| < 10 ^ (maxExponent + 1) :=
    bound.trans_lt (zpow_lt_zpow_right₀ (by norm_num) (by omega))
  rw [Quantity.ofRational, if_pos inRange] at h
  obtain ⟨a, ok, reads⟩ := ok_of_quantity h
  refine ⟨a, ok, Reads.isFinite reads, ?_⟩
  rwa [Reads.number reads, ← zpow_natCast]

theorem Decimal.Within.neg (h : a.Within k) (range : (k : ℤ) ≤ maxExponent) :
    ∃ b, a.neg = .ok b ∧ b.Within k := by
  refine within_of_map (q := -a.number) ?_ range ?_
  · rw [neg_quantity, reads_number h.finite]
    rfl
  · rw [abs_neg]
    exact h.size

theorem Decimal.Within.neg_agree (h : a.Within k) (h' : b.Within k)
    (range : (k : ℤ) ≤ maxExponent) :
    Agree True (fun x y => x.Within k ∧ y.Within k) a.neg b.neg := by
  obtain ⟨x, ok, within⟩ := h.neg range
  obtain ⟨y, ok', within'⟩ := h'.neg range
  rw [ok, ok']
  exact .ok ⟨within, within'⟩

/-- A figure of bounded magnitude withstands a change of bounded magnitude. -/
theorem Decimal.Within.changed (h : a.Within k) (change : b.Within l)
    (range : (k + (l + 1) : ℤ) ≤ maxExponent) :
    ∃ c, a.changed b = .ok c ∧ c.Within (k + (l + 1)) := by
  have one : |1 + b.number| ≤ 10 ^ (l + 1) := by
    have least : (1 : ℚ) ≤ 10 ^ l := one_le_pow₀ (by norm_num)
    calc |1 + b.number| ≤ |1| + |b.number| := abs_add_le _ _
      _ ≤ 10 ^ l + 10 ^ l := by
          rw [abs_one]
          exact add_le_add least change.size
      _ ≤ 10 ^ (l + 1) := by
          rw [pow_succ]
          linarith
  obtain ⟨factor, sum, within⟩ :=
    within_of_map (x := Decimal.one.add b) (q := 1 + b.number) (k := l + 1)
      (by rw [add_quantity, reads_one, reads_number change.finite]; rfl)
      (by omega) one
  have product : |a.number * factor.number| ≤ 10 ^ (k + (l + 1)) := by
    rw [abs_mul, pow_add]
    exact mul_le_mul h.size within.size (abs_nonneg _) (by positivity)
  obtain ⟨c, mul, bound⟩ := within_of_map (x := a.mul factor)
    (by rw [mul_quantity, reads_number h.finite,
      reads_number within.finite]; rfl) (by exact_mod_cast range) product
  exact ⟨c, bind_eq_ok.mpr ⟨factor, sum, mul⟩, bound⟩

/-- Finite numbers have binary ones. -/
theorem Decimal.asFloat_of_isFinite (h : a.isFinite) : ∃ x, a.asFloat = .ok x := by
  cases a with
  | finite s c e => exact ⟨_, rfl⟩
  | infinity s => cases h
  | nan s b p => cases h

end Figures

/-! ### Markets of one price -/

/-- A market whose volatility and rate are numbers. -/
structure Market.IsReadable (m : Market) : Prop where
  volatility : m.volatility.isFinite
  rate : m.rate.isFinite

/-- Markets of one price, which are both readable if there are options. -/
structure Market.Alike (options : Bool) (m m' : Market) : Prop where
  price : m.price = m'.price
  readable : options = true → m.IsReadable ∧ m'.IsReadable

variable {live : LiveModel} {options : Bool} {m m' : Market} {now : Int}

theorem expiredPrice_eq (kind : OptionKind) (strike : Decimal) (h : m.IsReadable) :
    expiredPrice kind strike m = do
      let spot ← m.price.asFloat
      let exercise ← strike.asFloat
      return .ofFloat (kind.intrinsic spot exercise) := by
  obtain ⟨volatility, hv⟩ := asFloat_of_isFinite h.volatility
  obtain ⟨rate, hr⟩ := asFloat_of_isFinite h.rate
  rw [expiredPrice, hv, hr]
  rfl

/-- An instrument that is no live option is worth the same in markets of one
price. -/
theorem Market.Alike.value (h : m.Alike options m') {i : Instrument}
    (dormant : i.isLive now = false)
    (option : i.isOption = true → options = true) :
    i.value live m now = i.value live m' now := by
  cases i with
  | spot => exact congrArg Except.ok h.price
  | termFuture amount | perpFuture amount =>
    rw [Instrument.value, Instrument.value, h.price]
  | option kind amount strike expiration =>
    obtain ⟨readable, readable'⟩ := h.readable (option rfl)
    have expired : ¬ now < expiration := of_decide_eq_false dormant
    rw [Instrument.value, Instrument.value, optionPrice, optionPrice,
      if_neg expired, if_neg expired, expiredPrice_eq kind strike readable,
      expiredPrice_eq kind strike readable', h.price]
  | unrecognised => rfl

variable {positions : List Position}

theorem isOption_of_mem {p : Position} (hp : p ∈ positions)
    (h : p.instrument.isOption = true) : withOption positions = true :=
  List.any_eq_true.mpr ⟨p, hp, h⟩

/-- Without an option nothing is live. -/
theorem dormant_of_not_withOption (none : withOption positions = false) :
    ∀ p ∈ positions, p.instrument.isLive now = false := by
  intro p hp
  have other := List.any_eq_false.mp none p hp
  cases instrument : p.instrument with
  | option kind amount strike expiration =>
    rw [instrument] at other
    exact absurd rfl other
  | _ => rfl

section Group

variable (dormant : ∀ p ∈ positions, p.instrument.isLive now = false)

include dormant

theorem Market.Alike.position (h : m.Alike (withOption positions) m')
    {p : Position} (hp : p ∈ positions) :
    p.value live m now = p.value live m' now := by
  rw [Position.value, Position.value, h.value (dormant p hp) (isOption_of_mem hp)]

theorem Market.Alike.valuedAt (h : m.Alike (withOption positions) m') :
    valuedAt live m now positions = ScenarioMargin.valuedAt live m' now positions :=
  mapM_congr fun p hp => by rw [h.position dormant hp]

end Group

/-! ### Shocks -/

/-- A market whose volatility takes a change, and to a number if there are
options. -/
structure Market.Withstands (options : Bool) (m : Market) (change : Decimal) :
    Prop where
  returns : ∃ v, m.volatility.changed change = .ok v ∧ (options = true → v.isFinite)
  rate : options = true → m.rate.isFinite

/-- Scenarios with one price change, each of which its market withstands. -/
structure SameShock (options : Bool) (m m' : Market) (s s' : Scenario) : Prop where
  price : s.priceChange = s'.priceChange
  withstands : m.Withstands options s.volatilityChange
  withstands' : m'.Withstands options s'.volatilityChange

variable {s s' : Scenario}

theorem SameShock.shocked (price : m.price = m'.price)
    (h : SameShock options m m' s s') :
    Agree True (Market.Alike options) (m.shocked s) (m'.shocked s') := by
  obtain ⟨v, returns, finite⟩ := h.withstands.returns
  obtain ⟨v', returns', finite'⟩ := h.withstands'.returns
  rw [Market.shocked, Market.shocked, price, h.price, returns, returns']
  refine Agree.bind_self _ fun shocked =>
    .pure ⟨rfl, fun among => ⟨⟨?_, ?_⟩, ⟨?_, ?_⟩⟩⟩
  · exact finite among
  · exact h.withstands.rate among
  · exact finite' among
  · exact h.withstands'.rate among

section Group

variable (dormant : ∀ p ∈ positions, p.instrument.isLive now = false)

include dormant

theorem SameShock.scenarioResult (price : m.price = m'.price)
    (h : SameShock (withOption positions) m m' s s')
    {valued : List (Position × Decimal)}
    (among : ∀ entry ∈ valued, entry.1 ∈ positions) :
    scenarioResult live m now valued s =
      ScenarioMargin.scenarioResult live m' now valued s' := by
  refine Agree.eq ((h.shocked price).lift.bind fun shocked shocked' alike => ?_)
  refine Agree.foldlM (beside_itself valued) ?_ rfl
  rintro sum _ entry _ rfl ⟨rfl, mem⟩
  rw [Position.change, Position.change, alike.position dormant (among entry mem)]
  exact .refl (fun _ => rfl) _

end Group

/-! ### Statistics -/

/-- The statistics of positions in a market under scenarios that are still to
be made. -/
def statisticsUnder (live : LiveModel) (market : Market) (now : Int)
    (positions : List Position) (variants : Except Fault (List Scenario)) :
    Except Fault AssetStatistics := do
  let valued ← valuedAt live market now positions
  let scenarios ← variants
  let extremes ← Extremes.takeAll
    (scenarioResult live market now valued) scenarios Extremes.start
  let gross ← grossValue (valued.map Prod.snd)
  return ⟨extremes.best, extremes.worst, gross, scenarios.length⟩

theorem assetStatistics_eq (live : LiveModel) (positions : List Position)
    (info : AssetInfo) (category : CategoryInfo) (period : Value) (now : Int) :
    assetStatistics live positions info category period now =
      statisticsUnder live (info.market category) now positions
        (category.variants period (withOption positions)) :=
  rfl

/-- Statistics with the same figures, from however many scenarios. -/
structure AssetStatistics.SameFigures (s t : AssetStatistics) : Prop where
  best : s.biggestProfit = t.biggestProfit
  worst : s.biggestLoss = t.biggestLoss
  gross : s.grossValue = t.grossValue

theorem mem_of_valuedAt {market : Market} {valued : List (Position × Decimal)}
    (h : valuedAt live market now positions = .ok valued) :
    ∀ entry ∈ valued, entry.1 ∈ positions := by
  intro entry mem
  obtain ⟨p, hp, value⟩ := exists_of_forall₂ (mapM_eq_ok.mp h) mem
  obtain ⟨v, -, paired⟩ := bind_eq_ok.mp value
  rw [← pure_eq_ok.mp paired]
  exact hp

section Group

variable (dormant : ∀ p ∈ positions, p.instrument.isLive now = false)

include dormant

/-- Shocks that are the same for dormant positions lead to the same extremes. -/
theorem takeAll_eq (price : m.price = m'.price) {valued : List (Position × Decimal)}
    (among : ∀ entry ∈ valued, entry.1 ∈ positions)
    {scenarios scenarios' : List Scenario}
    (related : List.Forall₂ (SameShock (withOption positions) m m')
      scenarios scenarios')
    (e : Extremes) :
    Extremes.takeAll (scenarioResult live m now valued) scenarios e =
      Extremes.takeAll (scenarioResult live m' now valued) scenarios' e := by
  refine Agree.eq (Agree.foldlM related ?_ rfl)
  rintro e _ s s' rfl same
  rw [same.scenarioResult dormant price among]
  exact .refl (fun _ => rfl) _

theorem statisticsUnder_eq (h : m.Alike (withOption positions) m')
    {variants variants' : Except Fault (List Scenario)}
    (related : Agree True (List.Forall₂ (SameShock (withOption positions) m m'))
      variants variants') :
    statisticsUnder live m now positions variants =
      statisticsUnder live m' now positions variants' := by
  rw [statisticsUnder, statisticsUnder, h.valuedAt dormant]
  refine bind_congr_ok fun valued values =>
    Agree.eq (related.bind fun scenarios scenarios' related => ?_)
  rw [takeAll_eq dormant h.price (mem_of_valuedAt values) related,
    related.length_eq]
  exact .refl (fun _ => rfl) _

end Group

/-! ### Categories -/

/-- A category whose figures are moderate, as far as positions feel them in a
period. -/
structure CategoryInfo.IsModerate (category : CategoryInfo)
    (period : Value) : Prop where
  volatility : category.volatility.IsModerate
  rate : category.rate.IsModerate
  change : ∀ b, bucket period = .ok b →
    (category.scenario b).volatilityChange.IsModerate

section Categories

variable {info : AssetInfo} {category category' : CategoryInfo} {period : Value}

theorem CategoryInfo.IsModerate.withstands (h : category.IsModerate period)
    (info : AssetInfo) (options : Bool)
    {change : Decimal} (within : change.Within 1000) :
    (info.market category).Withstands options change := by
  obtain ⟨v, returns, bound⟩ := h.volatility.within.changed within (by decide)
  exact ⟨⟨v, returns, fun _ => bound.finite⟩, fun _ => h.rate.finite⟩

theorem CategoryInfo.IsModerate.readable (h : category.IsModerate period)
    (info : AssetInfo) : (info.market category).IsReadable :=
  ⟨h.volatility.finite, h.rate.finite⟩

variable (moderate : category.IsModerate period)
  (moderate' : category'.IsModerate period)

include moderate moderate'

theorem CategoryInfo.IsModerate.sameShock (info : AssetInfo) (options : Bool)
    {s s' : Scenario} (price : s.priceChange = s'.priceChange)
    (within : s.volatilityChange.Within 1000 ∧ s'.volatilityChange.Within 1000) :
    SameShock options (info.market category) (info.market category') s s' :=
  ⟨price, moderate.withstands info options within.1,
    moderate'.withstands info options within.2⟩

/-- The variants of scenarios with one price change are shocks of the same
price. -/
theorem CategoryInfo.IsModerate.variants
    (same : ∀ b, bucket period = .ok b →
      (category.scenario b).priceChange = (category'.scenario b).priceChange)
    (info : AssetInfo) (options : Bool) :
    Agree True (List.Forall₂
      (SameShock options (info.market category) (info.market category')))
      (category.variants period options) (category'.variants period options) := by
  refine Agree.bind_self_ok (bucket period) fun b found => ?_
  have price := same b found
  have changes :=
    And.intro (moderate.change b found).within (moderate'.change b found).within
  have zeros : zero.Within 1000 ∧ zero.Within 1000 := ⟨within_zero, within_zero⟩
  have shock :=
    @CategoryInfo.IsModerate.sameShock _ _ _ moderate moderate' info options
  cases options with
  | false =>
    refine Agree.lift ?_
    rw [Scenario.priceSigns, Scenario.priceSigns, price]
    refine Agree.bind_self _ fun fall => ?_
    exact .pure (.cons (shock rfl zeros) (.cons (shock rfl zeros) .nil))
  | true =>
    refine Agree.lift ?_
    rw [Scenario.signs, Scenario.signs, price]
    refine (changes.1.neg_agree changes.2 (by decide)).bind
      fun fall fall' turned => ?_
    refine Agree.bind_self _ fun priceFall => ?_
    exact .pure (.cons (shock price changes)
      (.cons (shock rfl turned) (.cons (shock rfl changes)
      (.cons (shock rfl turned) .nil))))

end Categories

section Signs

variable {info : AssetInfo} {category : CategoryInfo} {period : Value}

/-- Without options the four combinations of signs are shocks of the two
prices, each of them twice. -/
theorem CategoryInfo.IsModerate.variants_twice
    (moderate : category.IsModerate period) (info : AssetInfo) :
    Agree True
      (fun four two => List.Forall₂
        (SameShock false (info.market category) (info.market category)) four
        (two.flatMap fun s => [s, s]))
      (category.variants period true) (category.variants period false) := by
  refine Agree.bind_self_ok (bucket period) fun b found => Agree.lift ?_
  have change := (moderate.change b found).within
  have zero : Decimal.zero.Within 1000 := within_zero
  obtain ⟨fall, turns, turned⟩ := change.neg (by decide)
  have first : (category.scenario b).volatilityChange.neg = pure fall := turns
  have shock :=
    @CategoryInfo.IsModerate.sameShock _ _ _ moderate moderate info false
  show Agree True _ (category.scenario b).signs (category.scenario b).priceSigns
  rw [Scenario.signs, Scenario.priceSigns, first, pure_bind]
  refine Agree.bind_self _ fun priceFall => ?_
  exact .pure (.cons (shock rfl ⟨change, zero⟩)
    (.cons (shock rfl ⟨turned, zero⟩) (.cons (shock rfl ⟨change, zero⟩)
    (.cons (shock rfl ⟨turned, zero⟩) .nil))))

/-- Scenarios that are shocks of others, each of these twice in a row, lead to
the same figures. -/
theorem statisticsUnder_twice (none : withOption positions = false)
    {variants twice : Except Fault (List Scenario)}
    (related : Agree True
      (fun scenarios' scenarios => List.Forall₂ (SameShock false m m) scenarios'
        (scenarios.flatMap fun s => [s, s]))
      twice variants) :
    Agree True AssetStatistics.SameFigures
      (statisticsUnder live m now positions twice)
      (statisticsUnder live m now positions variants) := by
  have dormant : ∀ p ∈ positions, p.instrument.isLive now = false :=
    dormant_of_not_withOption none
  rw [statisticsUnder, statisticsUnder]
  refine Agree.bind_self_ok (valuedAt live m now positions) fun valued values => ?_
  refine related.bind fun scenarios' scenarios related => ?_
  rw [← none] at related
  rw [takeAll_eq dormant rfl (mem_of_valuedAt values) related,
    Extremes.takeAll_twice]
  refine Agree.bind_self _ fun extremes => Agree.bind_self _ fun gross => ?_
  exact .pure ⟨rfl, rfl, rfl⟩

end Signs

/-- **Only live options feel the volatility.**  Let no position be an option
that expires after `now`.

Under two categories with moderate figures whose scenarios have the same price
change, the positions have the same statistics, or stop with the same fault,
whatever the volatilities, the rates and the volatility changes are.

If there is no option at all, the two scenarios that are evaluated have the
best and the worst result that the four combinations of signs would have, or
stop with the same fault. -/
theorem assetStatistics_dormant (live : LiveModel)
    {positions : List Position}
    {now : Int} (dormant : ∀ p ∈ positions, p.instrument.isLive now = false)
    (info : AssetInfo) {category category' : CategoryInfo} {period : Value}
    (moderate : category.IsModerate period)
    (moderate' : category'.IsModerate period)
    (same : ∀ b, bucket period = .ok b →
      (category.scenario b).priceChange = (category'.scenario b).priceChange) :
    assetStatistics live positions info category period now =
        assetStatistics live positions info category' period now ∧
      (withOption positions = false →
        Agree True AssetStatistics.SameFigures
          (statisticsUnder live (info.market category) now positions
            (category.variants period true))
          (assetStatistics live positions info category period now)) := by
  have alike : (info.market category).Alike (withOption positions)
      (info.market category') :=
    ⟨rfl, fun _ => ⟨moderate.readable info, moderate'.readable info⟩⟩
  constructor
  · rw [assetStatistics_eq, assetStatistics_eq]
    exact statisticsUnder_eq dormant alike
      (moderate.variants moderate' same info (withOption positions))
  · intro none
    rw [assetStatistics_eq, none]
    exact statisticsUnder_twice none (moderate.variants_twice info)

/-! ### The small book after its option -/

namespace Sample

/-- The category of the small book with a rate, three times the volatility, and
a change that turns it negative. -/
def nervous : CategoryInfo :=
  ⟨.finite false 7 (-2), .ofInt 3,
    List.replicate bucketCount ⟨.finite false 10 (-2), .ofInt (-2)⟩, rfl⟩

theorem isModerate_category : category.IsModerate (.whole 3600) := by
  have changes : ∀ b,
      (category.scenario b).volatilityChange = .finite false 5 (-1) := by decide
  refine ⟨⟨rfl, by decide +kernel⟩, ⟨rfl, by decide +kernel⟩, fun b _ => ?_⟩
  rw [changes b]
  exact ⟨rfl, by decide +kernel⟩

theorem isModerate_nervous : nervous.IsModerate (.whole 3600) := by
  have changes : ∀ b, (nervous.scenario b).volatilityChange = .ofInt (-2) := by
    decide
  refine ⟨⟨rfl, by decide +kernel⟩, ⟨rfl, by decide +kernel⟩, fun b _ => ?_⟩
  rw [changes b]
  exact ⟨rfl, by decide +kernel⟩

end Sample

/-- After the option of the small book has expired, the book has the same
statistics in either category.  Its first two positions have the same figures
under two scenarios as under four. -/
theorem sample_dormant :
    assetStatistics Sample.live Sample.book ⟨.low, .ofInt 100⟩ Sample.category
      (.whole 3600) 10 =
        assetStatistics Sample.live Sample.book
          ⟨.low, .ofInt 100⟩ Sample.nervous (.whole 3600) 10 ∧
      ∃ two four,
        assetStatistics Sample.live (Sample.book.take 2)
          ⟨.low, .ofInt 100⟩ Sample.category (.whole 3600) 0 = .ok two ∧
        statisticsUnder Sample.live ⟨.ofInt 100, .one, .zero⟩ 0 (Sample.book.take 2)
          (Sample.category.variants (.whole 3600) true) = .ok four ∧
        four.SameFigures two ∧ two.scenarioCount = 2 ∧ four.scenarioCount = 4 := by
  have same : ∀ b, bucket (.whole 3600) = .ok b →
      (Sample.category.scenario b).priceChange =
        (Sample.nervous.scenario b).priceChange := by
    intro b _
    revert b
    decide
  constructor
  · exact (assetStatistics_dormant Sample.live (by decide)
      ⟨.low, .ofInt 100⟩ Sample.isModerate_category
      Sample.isModerate_nervous same).1
  · have two :
        (assetStatistics Sample.live (Sample.book.take 2)
          ⟨.low, .ofInt 100⟩ Sample.category (.whole 3600)
        0).map AssetStatistics.scenarioCount = .ok 2 := by decide +kernel
    have four :
        (statisticsUnder Sample.live ⟨.ofInt 100, .one, .zero⟩ 0
          (Sample.book.take 2)
        (Sample.category.variants (.whole 3600) true)).map
        AssetStatistics.scenarioCount = .ok 4 := by decide +kernel
    have dormant : ∀ p ∈ Sample.book.take 2, p.instrument.isLive 0 = false := by
      decide
    have law :=
      (assetStatistics_dormant Sample.live dormant
        ⟨.low, .ofInt 100⟩ Sample.isModerate_category
      Sample.isModerate_nervous same).2 (by decide)
    obtain ⟨s, runs, count⟩ := map_eq_ok.mp two
    obtain ⟨t, runs', count'⟩ := map_eq_ok.mp four
    rw [runs] at law
    exact ⟨s, t, runs, runs',
      (runs' ▸ law : Agree True _ (.ok t) (.ok s)).of_ok_ok, count, count'⟩

end ScenarioMargin
