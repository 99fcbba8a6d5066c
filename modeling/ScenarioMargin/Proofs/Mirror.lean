/-
ScenarioMargin/Proofs/Mirror.lean

The portfolio of the other party.  Mirrored positions have every side turned
around: what was long is short.  Their portfolio is the mirror image of the
given one, in the working precision and with all of its roundings: each base
asset's best result is its worst one with the other sign, and the whole
portfolio's loss is the other's profit.

The one place where the two runs do not do the same to numbers is the exposure:
a long amount is rounded when its sign is turned, a short one is taken as it
is.  Hence the hypothesis that amounts fit the precision (`Decimal.IsSettled`),
which amounts made from whole units satisfy.  From there on every step is odd:
sums, products and comparisons commute with turning the sign (`Proofs.Agree`),
and so do the failures.  A NaN has no sides and is its own mirror image.

Main result: `portfolioStatistics_mirrored`.
-/
import ScenarioMargin.Collateral
import ScenarioMargin.Proofs.Agree
import ScenarioMargin.Proofs.Grouping

namespace ScenarioMargin

open Decimal

/-! ### Mirror images -/

/-- The other direction. -/
def LegSide.opposite : LegSide → LegSide
  | .long => .short
  | .short => .long

/-- The position with its side turned around. -/
def Position.mirrored (p : Position) : Position :=
  { p with side := p.side.opposite }

/-- The other party. -/
def Authority.opposite : Authority → Authority
  | .maker => .taker
  | .taker => .maker

/-- The other side of the quote. -/
def QuoteSide.opposite : QuoteSide → QuoteSide
  | .bid => .ask
  | .ask => .bid

/-- A finite number that rounding to the working precision leaves what it is. -/
def Decimal.IsSettled : Decimal → Prop
  | .finite s c e => ∃ a, Decimal.round s c e = .ok a ∧ a.Same (.finite s c e)
  | _ => False

/-- Statistics of a base asset that are mirror images of each other. -/
structure AssetStatistics.Mirrors (s t : AssetStatistics) : Prop where
  best : s.biggestProfit.Opposed t.biggestLoss
  worst : s.biggestLoss.Opposed t.biggestProfit
  gross : s.grossValue.Same t.grossValue
  count : s.scenarioCount = t.scenarioCount

/-- Portfolios that are mirror images of each other. -/
structure Portfolio.Mirrors (p q : Portfolio) : Prop where
  loss : p.maxLoss.Same q.maxProfit
  profit : p.maxProfit.Same q.maxLoss

/-- Statistics of positions that are mirror images of each other, asset by
asset and as a whole. -/
structure PortfolioStatistics.Mirrors (s t : PortfolioStatistics) : Prop where
  assets : List.Forall₂ (fun a b => a.1 = b.1 ∧ a.2.Mirrors b.2) s.assets t.assets
  portfolio : s.portfolio.Mirrors t.portfolio

/-! ### Settled amounts -/

/-- What was rounded once is settled. -/
theorem isSettled_of_round {s : Bool} {c : Nat} {e : Int} {a : Decimal}
    (h : Decimal.round s c e = .ok a) : a.IsSettled := by
  have reading := quantity_of_ok (round_quantity s c e) h
  have exactly : a.quantity = .rational (rounded (spelled s c e)) :=
    Quantity.ofRational_eq reading
  rcases a with ⟨t, d, f⟩ | t | ⟨t, b, n⟩ <;> simp at exactly
  have again : (Decimal.round t d f).map quantity =
      .ok (finite t d f).quantity := by
    rw [round_quantity, ← reading]
    exact Quantity.ofRational_congr (by rw [exactly, rounded_rounded])
  exact ok_of_quantity again

/-- Amounts made from whole units are settled. -/
theorem isSettled_fromRaw {raw decimals : Int} {a : Decimal}
    (h : FixedPoint.fromRaw raw decimals = .ok a) : a.IsSettled := by
  rw [FixedPoint.fromRaw, ofInt, scale] at h
  split at h
  · cases h
  · exact isSettled_of_round h

/-- Rounding has nothing to do for the number that a settled one stands for. -/
theorem isSettled_iff {a : Decimal} :
    a.IsSettled ↔ ∃ x, a.quantity = .rational x ∧
      Quantity.ofRational x = .ok (.rational x) := by
  rcases a with ⟨s, c, e⟩ | s | ⟨s, b, p⟩
  case infinity | nan =>
    refine ⟨False.elim, ?_⟩
    rintro ⟨x, ⟨⟩, -⟩
  constructor
  · rintro ⟨b, rounds, same⟩
    refine ⟨spelled s c e, rfl, ?_⟩
    rw [← round_quantity, rounds]
    exact congrArg Except.ok same
  · rintro ⟨x, ⟨⟩, settled⟩
    rw [← round_quantity] at settled
    exact ok_of_quantity settled

/-- A settled number is not rounded when its sign is turned. -/
theorem Decimal.IsSettled.neg_quantity {a : Decimal} (h : a.IsSettled) :
    a.neg.map quantity = .ok a.quantity.opposite := by
  obtain ⟨x, reads, settled⟩ := isSettled_iff.mp h
  rw [Decimal.neg_quantity, reads]
  show Quantity.ofRational (-x) = _
  rw [Quantity.ofRational_neg, settled]
  rfl

variable {alike : Prop}

/-! ### Positions -/

/-- The exposure of a settled amount changes sides with the position. -/
theorem exposure_mirrored {p : Position} (h : p.amount.IsSettled) :
    Agree alike Opposed p.exposure p.mirrored.exposure := by
  obtain ⟨asset, amount, side, instrument⟩ := p
  have turned : amount.neg.map quantity = .ok amount.quantity.opposite :=
    IsSettled.neg_quantity h
  -- the long one of the two is negated and rounded, the short one is taken as
  -- it is
  cases side
  · exact .of_map_opposed turned
  · exact (Agree.of_map_opposed (y := .ok amount) turned).symm.mono
      fun _ _ related => Opposed.symm related

/-- What a position is worth changes sides with the position. -/
theorem value_mirrored (live : LiveModel) (market : Market) (now : Int)
    {p : Position} (h : p.amount.IsSettled) :
    Agree alike Opposed (p.value live market now)
      (p.mirrored.value live market now) := by
  refine Agree.bind_self _ fun unit => ?_
  refine (exposure_mirrored h).lift.bind ?_
  intro exposure exposure' turned
  exact (Opposed.mul (Same.refl unit) turned).lift

/-! ### Scenarios -/

/-- A valued position and its mirror image. -/
structure Facing (a b : Position × Decimal) : Prop where
  turned : b.1 = a.1.mirrored
  settled : a.1.amount.IsSettled
  value : a.2.Opposed b.2

theorem valuedAt_mirrored (live : LiveModel) (market : Market) (now : Int)
    {positions : List Position}
    (settled : ∀ p ∈ positions, p.amount.IsSettled) :
    Agree alike (List.Forall₂ Facing) (valuedAt live market now positions)
      (valuedAt live market now (positions.map Position.mirrored)) := by
  have lists :
      List.Forall₂ (fun p q => q = p.mirrored ∧ p.amount.IsSettled) positions
      (positions.map Position.mirrored) := by
    rw [List.forall₂_map_right_iff, List.forall₂_same]
    exact fun p hp => ⟨rfl, settled p hp⟩
  refine Agree.mapM lists ?_
  rintro p _ ⟨rfl, hp⟩
  exact (value_mirrored live market now hp).bind fun v v' opposite =>
    .pure ⟨rfl, hp, opposite⟩

/-- Changes of value change sides. -/
theorem change_mirrored (live : LiveModel) (market : Market) (now : Int)
    {a b : Position × Decimal} (h : Facing a b) :
    Agree alike Opposed (a.1.change live market now a.2)
      (b.1.change live market now b.2) := by
  rw [h.turned]
  exact (value_mirrored live market now h.settled).bind fun v v' opposite =>
    (opposite.sub h.value).lift

/-- The result of a scenario changes sides. -/
theorem scenarioResult_mirrored (live : LiveModel) (market : Market) (now : Int)
    {valued valued' : List (Position × Decimal)}
    (h : List.Forall₂ Facing valued valued') (s : Scenario) :
    Agree alike Opposed (scenarioResult live market now valued s)
      (scenarioResult live market now valued' s) := by
  refine Agree.bind_self _ fun shocked => ?_
  refine Agree.foldlM h ?_ Opposed.zero
  intro sum sum' a b sums facing
  exact (change_mirrored live shocked now facing).bind fun d d' opposite =>
    (sums.add opposite).lift

/-! ### Base assets -/

/-- Extremes that are mirror images of each other: the best on one side is the
worst on the other. -/
structure Extremes.Mirrors (e f : Extremes) : Prop where
  best : e.best.Opposed f.worst
  worst : e.worst.Opposed f.best

theorem Extremes.start_mirrors : Extremes.start.Mirrors Extremes.start :=
  ⟨rfl, rfl⟩

/-- One more result keeps the extremes in opposition.  The best of one side
goes with the worst of the other, and these are not taken in the same order. -/
theorem Extremes.take_mirrored {e f : Extremes} {r r' : Decimal}
    (h : e.Mirrors f) (opposite : r.Opposed r') :
    Agree False Extremes.Mirrors (e.take r) (f.take r') :=
  Agree.bind_comm (h.best.larger_smaller opposite) (h.worst.smaller_larger opposite)
    fun _ _ _ _ best worst => .pure ⟨best, worst⟩

theorem withOption_mirrored (positions : List Position) :
    withOption (positions.map Position.mirrored) = withOption positions := by
  rw [withOption, withOption, List.any_map]
  rfl

theorem grossValue_mirrored {valued valued' : List (Position × Decimal)}
    (h : List.Forall₂ Facing valued valued') :
    Agree alike Same (grossValue (valued.map Prod.snd))
      (grossValue (valued'.map Prod.snd)) := by
  have values :
      List.Forall₂ Opposed (valued.map Prod.snd) (valued'.map Prod.snd) := by
    rw [List.forall₂_map_left_iff, List.forall₂_map_right_iff]
    exact h.imp fun _ _ facing => facing.value
  refine Agree.foldlM values ?_ (Same.refl zero)
  intro sum sum' v v' sums opposite
  exact opposite.abs.bind fun m m' same => sums.add same

/-- A base asset's statistics are mirrored with its positions. -/
theorem assetStatistics_mirrored (live : LiveModel) {positions : List Position}
    (settled : ∀ p ∈ positions, p.amount.IsSettled) (info : AssetInfo)
    (category : CategoryInfo) (period : Value) (now : Int) :
    Agree False AssetStatistics.Mirrors
      (assetStatistics live positions info category period now)
      (assetStatistics live (positions.map Position.mirrored) info category
        period now) := by
  rw [assetStatistics, assetStatistics, withOption_mirrored]
  refine (valuedAt_mirrored live (info.market category) now settled).bind ?_
  intro valued valued' facing
  -- mirrored positions have the same kinds, and so the same scenarios
  refine Agree.bind_self _ fun scenarios => ?_
  -- opposition of the extremes is the invariant of the loop over the scenarios
  have extremes : Agree False Extremes.Mirrors
      (scenarios.foldlM (fun e s => do
        e.take (← scenarioResult live (info.market category) now valued s))
        Extremes.start)
      (scenarios.foldlM (fun e s => do
        e.take (← scenarioResult live (info.market category) now valued' s))
        Extremes.start) := by
    refine Agree.foldlM (beside_itself scenarios) ?_ Extremes.start_mirrors
    rintro e f s _ mirrors ⟨rfl, _⟩
    refine (scenarioResult_mirrored live (info.market category) now facing
      s).bind ?_
    exact fun r r' opposite => (Extremes.take_mirrored mirrors opposite).lift
  refine extremes.bind ?_
  intro e f mirrors
  exact (grossValue_mirrored facing).lift.bind fun g g' same =>
    .pure ⟨mirrors.best, mirrors.worst, same, rfl⟩

/-! ### Roll-up -/

/-- Sums that are mirror images of each other: the profits of one side are the
losses of the other. -/
structure Totals.Mirrors (t u : Totals) : Prop where
  profits : t.profits.Same u.losses
  losses : t.losses.Same u.profits
  gross : t.gross.Same u.gross

/-- One more base asset keeps the sums in opposition: what is added to the
profits on one side is taken from the losses on the other. -/
theorem Totals.take_mirrored {t u : Totals} {s s' : AssetStatistics}
    (h : t.Mirrors u) (mirrors : s.Mirrors s') :
    Agree False Totals.Mirrors (t.take s) (u.take s') := by
  refine Agree.bind_comm (h.profits.add_sub mirrors.best)
    (h.losses.symm.add_sub mirrors.worst.symm).symm ?_
  intro a b c d forward backward
  exact (h.gross.add mirrors.gross).bind fun g g' same =>
    .pure ⟨forward, backward.symm, same⟩

/-- The portfolio is mirrored with the statistics of its base assets. -/
theorem Portfolio.ofStatistics_mirrored {groups groups' : List AssetStatistics}
    (h : List.Forall₂ AssetStatistics.Mirrors groups groups')
    (config : CollateralConfig) :
    Agree False Portfolio.Mirrors (Portfolio.ofStatistics groups config)
      (Portfolio.ofStatistics groups' config) := by
  have totals : Agree False Totals.Mirrors (groups.foldlM Totals.take Totals.start)
      (groups'.foldlM Totals.take Totals.start) :=
    Agree.foldlM h (fun t u s s' mirrors statistics =>
      Totals.take_mirrored mirrors statistics) ⟨rfl, rfl, rfl⟩
  refine totals.bind ?_
  intro t u mirrors
  -- the buffer is the same for both, since gross values are
  refine (mirrors.gross.mul (Same.refl config.priceShiftFactor)).bind ?_
  intro buffer buffer' same
  -- profits and losses are made one after the other, and the other run makes
  -- their images the other way round
  refine Agree.bind_comm (mirrors.profits.add same) (mirrors.losses.add same) ?_
  intro profits losses' losses profits' forward backward
  refine Agree.bind_self _ fun overall => ?_
  refine Agree.bind_comm (backward.mul (Same.refl overall))
    (forward.mul (Same.refl overall)) ?_
  exact fun _ _ _ _ loss profit => .pure ⟨loss, profit⟩

/-! ### Required collateral -/

/-- Turning the portfolio and the case around leaves the figure at stake what
it is. -/
theorem Portfolio.Mirrors.atStake {p q : Portfolio} (h : p.Mirrors q) {c d : Case}
    (inverted : d.isInverted = !c.isInverted) :
    (q.atStake c).Same (p.atStake d) := by
  unfold Portfolio.atStake
  rw [inverted]
  cases c.isInverted
  · exact h.profit.symm
  · exact h.loss.symm

theorem isInverted_side (c : Case) :
    { c with side := c.side.opposite }.isInverted = !c.isInverted := by
  obtain ⟨multiplier, authority, side⟩ := c
  cases authority <;> cases side <;> rfl

theorem isInverted_authority (c : Case) :
    { c with authority := c.authority.opposite }.isInverted =
      !c.isInverted := by
  obtain ⟨multiplier, authority, side⟩ := c
  cases authority <;> cases side <;> rfl

/-- What is required depends on the figure at stake and the multiplier alone. -/
theorem requiredCollateral_congr {p q : Portfolio} {c d : Case}
    (figure : (q.atStake c).Same (p.atStake d))
    (multiplier : c.multiplier.Same d.multiplier) (config : CollateralConfig) :
    Agree alike Same (requiredCollateral q c config)
      (requiredCollateral p d config) := by
  refine (figure.larger (Same.refl zero)).bind ?_
  intro risk risk' same
  refine (same.mul multiplier).bind ?_
  intro scaled scaled' same'
  exact Agree.bind_self _ fun least => same'.larger (Same.refl least)

/-! ### Mirror law -/

/-- The groups of mirrored positions are the mirrored groups. -/
theorem positionsByAsset_mirrored (positions : List Position) :
    positionsByAsset (positions.map Position.mirrored) =
      (positionsByAsset positions).map fun g => (g.1, g.2.map Position.mirrored) :=
  Keyed.groupBy_map Position.baseAsset Position.mirrored positions

/-- Every group is made of the positions. -/
theorem mem_of_mem_positionsByAsset {positions : List Position}
    {group : Int × List Position} (h : group ∈ positionsByAsset positions)
    {p : Position} (hp : p ∈ group.2) : p ∈ positions := by
  rw [positionsByAsset, Keyed.groupBy_eq, List.mem_map] at h
  obtain ⟨k, _, rfl⟩ := h
  exact List.mem_of_mem_filter hp

theorem groupStatistics_mirrored (live : LiveModel)
    (infos : Keyed Int AssetInfo) (categories : CategoryTable)
    (period : Value) (now : Int) {group : Int × List Position}
    (settled : ∀ p ∈ group.2, p.amount.IsSettled) :
    Agree False (fun a b => a.1 = b.1 ∧ a.2.Mirrors b.2)
      (groupStatistics live infos categories period now group)
      (groupStatistics live infos categories period now
        (group.1, group.2.map Position.mirrored)) := by
  rw [groupStatistics, groupStatistics]
  -- a base asset that is missing from a table is missing for both
  cases Keyed.get? group.1 infos with
  | none => exact .error False.elim
  | some info =>
    dsimp only
    cases Keyed.get? info.category categories with
    | none => exact .error False.elim
    | some category =>
      refine (assetStatistics_mirrored live settled info category period
        now).bind ?_
      exact fun s s' mirrors => .pure ⟨rfl, mirrors⟩

theorem statistics_mirrored (live : LiveModel) {positions : List Position}
    (settled : ∀ p ∈ positions, p.amount.IsSettled)
    (infos : Keyed Int AssetInfo) (categories : CategoryTable)
    (config : CollateralConfig) (period : Value) (now : Int) :
    Agree False PortfolioStatistics.Mirrors
      (portfolioStatistics live positions infos categories config period now)
      (portfolioStatistics live (positions.map Position.mirrored) infos
        categories config period now) := by
  rw [portfolioStatistics, portfolioStatistics, positionsByAsset_mirrored]
  -- groups stand in the same order, with the same keys
  have groups : List.Forall₂
      (fun g h => h = (g.1, g.2.map Position.mirrored) ∧ ∀ p ∈ g.2,
        p.amount.IsSettled)
      (positionsByAsset positions)
      ((positionsByAsset positions).map fun g =>
        (g.1, g.2.map Position.mirrored)) := by
    rw [List.forall₂_map_right_iff, List.forall₂_same]
    exact fun g hg =>
      ⟨rfl, fun p hp => settled p (mem_of_mem_positionsByAsset hg hp)⟩
  have each : ∀ g h : Int × List Position,
      h = (g.1, g.2.map Position.mirrored) ∧ (∀ p ∈ g.2, p.amount.IsSettled) →
      Agree False (fun a b => a.1 = b.1 ∧ a.2.Mirrors b.2)
        (groupStatistics live infos categories period now g)
        (groupStatistics live infos categories period now h) := by
    rintro g _ ⟨rfl, hg⟩
    exact groupStatistics_mirrored live infos categories period now hg
  refine (Agree.mapM groups each).bind ?_
  intro assets assets' mirrors
  -- the roll-up does not see the keys
  have statistics : List.Forall₂ AssetStatistics.Mirrors (assets.map Prod.snd)
      (assets'.map Prod.snd) := by
    rw [List.forall₂_map_left_iff, List.forall₂_map_right_iff]
    exact mirrors.imp fun _ _ related => related.2
  refine (Portfolio.ofStatistics_mirrored statistics config).lift.bind ?_
  exact fun p q portfolio => .pure ⟨mirrors, portfolio⟩

/-- **Mirror law.**  Positions and the same positions with all sides turned
around have statistics together or not at all.  If they have them, these are
mirror images of each other, for each base asset and as a whole, and a case
requires of the one what it requires on the other side of the quote, or of the
other party, of the other. -/
theorem portfolioStatistics_mirrored (live : LiveModel) {positions : List Position}
    (settled : ∀ p ∈ positions, p.amount.IsSettled)
    (infos : Keyed Int AssetInfo) (categories : CategoryTable)
    (config : CollateralConfig) (period : Value) (now : Int) :
    ((∃ s,
      portfolioStatistics live positions infos categories config period now =
        .ok s) ↔
      ∃ t, portfolioStatistics live (positions.map Position.mirrored) infos
        categories config period now = .ok t) ∧
    ∀ s t,
      portfolioStatistics live positions infos categories config period now =
        .ok s →
      portfolioStatistics live (positions.map Position.mirrored) infos
        categories config period now = .ok t →
      s.Mirrors t ∧ ∀ c : Case,
        Agree True Same (requiredCollateral t.portfolio c config)
          (requiredCollateral s.portfolio
            { c with side := c.side.opposite } config) ∧
        Agree True Same (requiredCollateral t.portfolio c config)
          (requiredCollateral s.portfolio
            { c with authority := c.authority.opposite } config) := by
  have both := statistics_mirrored live settled infos categories config period now
  constructor
  · constructor
    · rintro ⟨s, hs⟩
      rw [hs] at both
      obtain ⟨t, ht, -⟩ := both.of_ok
      exact ⟨t, ht⟩
    · rintro ⟨t, ht⟩
      rw [ht] at both
      obtain ⟨s, hs, -⟩ := both.symm.of_ok
      exact ⟨s, hs⟩
  · intro s t hs ht
    rw [hs, ht] at both
    have mirrors : s.Mirrors t := both.of_ok_ok
    refine ⟨mirrors, fun c => ⟨?_, ?_⟩⟩
    · exact requiredCollateral_congr
        (mirrors.portfolio.atStake (isInverted_side c)) rfl config
    · exact requiredCollateral_congr
        (mirrors.portfolio.atStake (isInverted_authority c)) rfl config

/-- The law on a book that gains more than it loses. -/
theorem sample_mirrored :
    portfolioStatistics Sample.live Sample.book Sample.infos Sample.categories
      Sample.config (.whole 3600) 0 =
        .ok Sample.statistics ∧
      ∃ t, portfolioStatistics Sample.live
        (Sample.book.map Position.mirrored)
        Sample.infos Sample.categories Sample.config (.whole 3600) 0 = .ok t ∧
          Sample.statistics.Mirrors t := by
  have run : portfolioStatistics Sample.live Sample.book Sample.infos
      Sample.categories Sample.config (.whole 3600) 0 =
        .ok Sample.statistics := by decide +kernel
  have settled : ∀ p ∈ Sample.book, p.amount.IsSettled := by
    intro p hp
    simp only [Sample.book, List.mem_cons, List.not_mem_nil, or_false] at hp
    rcases hp with rfl | rfl | rfl
    · exact isSettled_fromRaw (by decide +kernel : FixedPoint.fromRaw 2000 3 = _)
    · exact isSettled_fromRaw (by decide +kernel : FixedPoint.fromRaw 15 1 = _)
    · exact isSettled_fromRaw (by decide +kernel : FixedPoint.fromRaw 3000 3 = _)
  have law := portfolioStatistics_mirrored Sample.live settled Sample.infos
    Sample.categories Sample.config (.whole 3600) 0
  obtain ⟨t, ht⟩ := law.1.mp ⟨_, run⟩
  exact ⟨run, t, ht, (law.2 _ t run ht).1⟩

end ScenarioMargin
