/-
ScenarioMargin/Proofs/Monotone.lean

More safety is more collateral.  Two evaluations of the same positions, the
second with no smaller factors, multiplier and least collateral than the first,
are followed side by side: wherever both return, the second requires at least
as much, roundings included.

The figure at stake itself need not grow.  A larger overall factor makes a
negative figure more negative.  What grows is the figure or it is not above
zero (`RisksLess`), and that is enough since it is raised to zero before
anything is made of it.

Nothing is assumed about the positions and their prices.  Where one of them
makes the statistics undefined, the figure at stake is undefined too and
nothing is required; so up to the comparison with zero the relations hold only
of what is defined (`AtMost`, `Unsigned`).

Main result: `requiredCollateral_mono`.
-/
import ScenarioMargin.Collateral
import ScenarioMargin.Proofs.Decimal.Order
import ScenarioMargin.Proofs.Grouping

namespace ScenarioMargin

/-! ### Numbers in order where they are defined -/

namespace Decimal

/-- At most another number, where both are defined. -/
def AtMost (a b : Decimal) : Prop :=
  a ≤ a → b ≤ b → a ≤ b

/-- At most another number or not above zero, where both are defined. -/
def RisksLess (a b : Decimal) : Prop :=
  a ≤ a → b ≤ b → a ≤ b ∨ a ≤ zero

/-- On the upper side of zero, where it is defined. -/
def Unsigned (a : Decimal) : Prop :=
  a ≤ a → zero ≤ a

variable {a b c a' b' c' : Decimal}

theorem AtMost.refl (a : Decimal) : AtMost a a := fun defined _ => defined

theorem Unsigned.add (ha : Unsigned a) (hb : Unsigned b) (h : a.add b = .ok c) :
    Unsigned c := by
  intro defined
  obtain ⟨definedA, definedB⟩ := defined_of_add h defined
  exact zero_le_add (ha definedA) (hb definedB) h

theorem unsigned_of_abs (h : a.abs = .ok c) : Unsigned c := fun defined =>
  zero_le_abs
    (Quantity.defined_of_abs (quantity_of_ok (abs_quantity a) h) defined) h

theorem AtMost.add (ha : AtMost a a') (hb : AtMost b b') :
    Meets AtMost (a.add b) (a'.add b') := by
  intro c c' h h' defined defined'
  have sum := quantity_of_ok (add_quantity a b) h
  have sum' := quantity_of_ok (add_quantity a' b') h'
  obtain ⟨definedA, definedB⟩ := Quantity.defined_of_add sum defined
  obtain ⟨definedA', definedB'⟩ := Quantity.defined_of_add sum' defined'
  exact Quantity.add_mono (ha definedA definedA') (hb definedB definedB') sum sum'

/-- An unsigned number times a larger factor is larger, on whichever side of
zero the factors are. -/
theorem Unsigned.mul (ha : Unsigned a) (hb : b ≤ b') :
    Meets AtMost (a.mul b) (a.mul b') := by
  intro c c' h h' defined defined'
  have product := quantity_of_ok (mul_quantity a b) h
  have product' := quantity_of_ok (mul_quantity a b') h'
  obtain ⟨definedA, -⟩ := Quantity.defined_of_mul product defined
  exact Quantity.mul_mono_right (zero_le_iff.mp (ha definedA)) hb product product'

/-- A larger number times a larger unsigned factor is larger, unless the
product is not above zero. -/
theorem AtMost.mul (ha : AtMost a a') (hb : zero ≤ b) (hbb : b ≤ b') :
    Meets RisksLess (a.mul b) (a'.mul b') := by
  intro c c' h h' defined defined'
  have product := quantity_of_ok (mul_quantity a b) h
  have product' := quantity_of_ok (mul_quantity a' b') h'
  obtain ⟨definedA, -⟩ := Quantity.defined_of_mul product defined
  obtain ⟨definedA', -⟩ := Quantity.defined_of_mul product' defined'
  rcases Quantity.le_total_zero definedA with low | high
  · -- a larger factor may lower the product here, but it is raised to zero
    -- later
    right
    rw [Quantity.mul_comm] at product
    exact le_zero_iff.mpr (Quantity.mul_nonpos (zero_le_iff.mp hb) low product)
  · left
    exact Quantity.mul_mono_of_nonneg high (zero_le_iff.mp hb)
      (ha definedA definedA') hbb product product'

/-- Raised to zero, what risks less is at most the other. -/
theorem RisksLess.larger_zero (h : RisksLess a a') :
    Meets (fun c c' => zero ≤ c ∧ c ≤ c') (a.larger zero) (a'.larger zero) := by
  intro c c' ok ok'
  have risk := quantity_of_ok (larger_quantity a zero) ok
  have risk' := quantity_of_ok (larger_quantity a' zero) ok'
  refine ⟨Quantity.le_larger_right risk, ?_⟩
  have definedA := Quantity.le_refl_left (Quantity.le_larger_left risk)
  have definedA' := Quantity.le_refl_left (Quantity.le_larger_left risk')
  have reflZero := Quantity.le_refl_left (Quantity.le_larger_right risk)
  rcases h definedA definedA' with less | low
  · exact Quantity.larger_mono less reflZero risk risk'
  · exact Quantity.le_trans (Quantity.larger_le low reflZero risk)
      (Quantity.le_larger_right risk')

end Decimal

open Decimal

/-- More units are a larger amount. -/
theorem fromRaw_mono {raw raw' : Int} (h : raw ≤ raw') (decimals : Int) :
    Meets (· ≤ ·) (FixedPoint.fromRaw raw decimals)
      (FixedPoint.fromRaw raw' decimals) := by
  intro a b ha hb
  have step := step_of_scale ha
  have units : (raw : ℚ) * 10 ^ (-decimals) ≤ raw' * 10 ^ (-decimals) :=
    mul_le_mul_of_nonneg_right (by exact_mod_cast h) (tenPow_pos _).le
  exact Quantity.ofRational_mono units
    (quantity_of_ok (ofInt_scale_quantity step) ha)
    (quantity_of_ok (ofInt_scale_quantity step) hb)

/-! ### Unsigned gross values

The first stage of both evaluations is the same computation.  What has to be
known of it is that gross values are unsigned, since the buffer is in
proportion to them. -/

/-- Sums of magnitudes are unsigned. -/
theorem grossValue_unsigned (values : List Decimal) :
    Meets (fun g g' => g = g' ∧ g.Unsigned) (grossValue values)
      (grossValue values) := by
  refine Meets.foldlM (beside_itself values) ?_ ⟨rfl, fun defined => defined⟩
  rintro sum _ v _ ⟨rfl, unsigned⟩ ⟨rfl, _⟩
  refine (Meets.diagonal fun m h => unsigned_of_abs h).bind ?_
  rintro m _ ⟨rfl, magnitude⟩
  exact Meets.diagonal fun c h => unsigned.add magnitude h

variable (live : LiveModel) (period : Value) (now : Int)

theorem assetStatistics_unsigned (positions : List Position) (info : AssetInfo)
    (category : CategoryInfo) :
    Meets (fun s t => s = t ∧ s.grossValue.Unsigned)
      (assetStatistics live positions info category period now)
      (assetStatistics live positions info category period now) := by
  rw [assetStatistics]
  refine (Meets.refl _).bind ?_
  rintro valued _ rfl
  refine (Meets.refl _).bind ?_
  rintro scenarios _ rfl
  refine (Meets.refl _).bind ?_
  rintro extremes _ rfl
  refine (grossValue_unsigned _).lift.bind ?_
  rintro gross _ ⟨rfl, unsigned⟩
  exact .pure ⟨rfl, unsigned⟩

theorem groupStatistics_unsigned (infos : Keyed Int AssetInfo)
    (categories : CategoryTable) (group : Int × List Position) :
    Meets (fun s t => s = t ∧ s.2.grossValue.Unsigned)
      (groupStatistics live infos categories period now group)
      (groupStatistics live infos categories period now group) := by
  rw [groupStatistics]
  cases Keyed.get? group.1 infos with
  | none => exact fun s t absurd => nomatch absurd
  | some info =>
    dsimp only
    cases Keyed.get? info.category categories with
    | none => exact fun s t absurd => nomatch absurd
    | some category =>
      refine (assetStatistics_unsigned live period now group.2 info
        category).bind ?_
      rintro s _ ⟨rfl, unsigned⟩
      exact .pure ⟨rfl, unsigned⟩

/-! ### Roll-up -/

/-- Portfolios whose figures risk less than those of another. -/
structure Portfolio.RisksLess (p q : Portfolio) : Prop where
  loss : p.maxLoss.RisksLess q.maxLoss
  profit : p.maxProfit.RisksLess q.maxProfit

theorem Totals.take_unsigned {t : Totals} {s : AssetStatistics}
    (ht : t.gross.Unsigned) (hs : s.grossValue.Unsigned) :
    Meets (fun u v => u = v ∧ u.gross.Unsigned) (t.take s) (t.take s) := by
  rw [Totals.take]
  refine (Meets.refl _).bind ?_
  rintro profits _ rfl
  refine (Meets.refl _).bind ?_
  rintro losses _ rfl
  refine (Meets.diagonal fun c h => ht.add hs h).bind ?_
  rintro gross _ ⟨rfl, unsigned⟩
  exact .pure ⟨rfl, unsigned⟩

/-- A config that asks for no less safety than another, both with the same
mint.  Overall factors above minus one do not turn figures around. -/
structure CollateralConfig.Safer (c d : CollateralConfig) : Prop where
  mint : c.mintDecimals = d.mintDecimals
  shift : c.priceShiftFactor ≤ d.priceShiftFactor
  upright : ofInt (-1) ≤ c.overallFactor
  overall : c.overallFactor ≤ d.overallFactor
  minimum : c.minimum ≤ d.minimum

variable {c d : CollateralConfig}

/-- The factors that figures are multiplied by are on the upper side of zero. -/
theorem CollateralConfig.Safer.one_add (h : c.Safer d) :
    Meets (fun a b => zero ≤ a ∧ a ≤ b) (one.add c.overallFactor)
      (one.add d.overallFactor) := by
  intro a b ha hb
  have reflOne : one.quantity ≤ one.quantity := by
    rw [quantity_one]
    exact Quantity.rational_le_rational.mpr le_rfl
  refine ⟨zero_le_one_add h.upright ha, ?_⟩
  exact Quantity.add_mono reflOne h.overall
    (quantity_of_ok (add_quantity one c.overallFactor) ha)
    (quantity_of_ok (add_quantity one d.overallFactor) hb)

/-- Larger buffers and factors make figures larger, unless they are not above
zero. -/
theorem Portfolio.ofStatistics_risksLess {groups groups' : List AssetStatistics}
    (same : List.Forall₂ (fun s t => s = t ∧ s.grossValue.Unsigned) groups
      groups') (h : c.Safer d) :
    Meets Portfolio.RisksLess (Portfolio.ofStatistics groups c)
      (Portfolio.ofStatistics groups' d) := by
  have totals : Meets (fun t u => t = u ∧ t.gross.Unsigned)
      (groups.foldlM Totals.take Totals.start)
      (groups'.foldlM Totals.take Totals.start) := by
    refine Meets.foldlM same ?_ ⟨rfl, fun defined => defined⟩
    rintro t _ s _ ⟨rfl, unsigned⟩ ⟨rfl, gross⟩
    exact Totals.take_unsigned unsigned gross
  refine totals.bind ?_
  rintro t _ ⟨rfl, unsigned⟩
  -- the configs differ from here on
  refine (unsigned.mul h.shift).bind ?_
  intro buffer buffer' more
  refine ((AtMost.refl t.profits).add more).bind ?_
  intro profits profits' moreProfits
  refine ((AtMost.refl t.losses).add more).bind ?_
  intro losses losses' moreLosses
  refine h.one_add.bind ?_
  rintro overall overall' ⟨upper, factors⟩
  -- up to here figures grow; times the overall factor, those below zero sink
  refine (moreLosses.mul upper factors).bind ?_
  intro maxLoss maxLoss' loss
  refine (moreProfits.mul upper factors).bind ?_
  exact fun maxProfit maxProfit' profit => .pure ⟨loss, profit⟩

/-! ### Required collateral -/

/-- The same side of portfolios is at stake. -/
theorem Portfolio.RisksLess.atStake {p q : Portfolio} (h : p.RisksLess q)
    (m m' : Decimal) (authority : Authority) (side : QuoteSide) :
    (p.atStake ⟨m, authority, side⟩).RisksLess
      (q.atStake ⟨m', authority, side⟩) := by
  have same : Case.isInverted ⟨m, authority, side⟩ =
      Case.isInverted ⟨m', authority, side⟩ := rfl
  unfold Portfolio.atStake
  rw [same]
  cases Case.isInverted ⟨m', authority, side⟩
  · exact h.loss
  · exact h.profit

/-- A portfolio that risks less requires less, for a smaller multiplier and
with a smaller minimum. -/
theorem requiredCollateral_of_risksLess {p q : Portfolio} (h : p.RisksLess q)
    (safer : c.Safer d) {m m' : Decimal} (upper : zero ≤ m)
    (multipliers : m ≤ m') (authority : Authority) (side : QuoteSide) :
    Meets (· ≤ ·) (requiredCollateral p ⟨m, authority, side⟩ c)
      (requiredCollateral q ⟨m', authority, side⟩ d) := by
  -- from zero on upwards both factors of the product count in full
  refine (h.atStake m m' authority side).larger_zero.bind ?_
  rintro risk risk' ⟨unsigned, risks⟩
  refine (mul_mono_of_nonneg unsigned upper risks multipliers).bind ?_
  intro scaled scaled' more
  have least : Meets (· ≤ ·) c.minCollateral d.minCollateral := by
    rw [CollateralConfig.minCollateral, CollateralConfig.minCollateral, safer.mint]
    exact fromRaw_mono safer.minimum d.mintDecimals
  refine least.bind ?_
  exact fun least least' minima => larger_mono more minima

/-- Up to the roll-up, both evaluations of the positions are the same. -/
theorem portfolioStatistics_risksLess (positions : List Position)
    (infos : Keyed Int AssetInfo) (categories : CategoryTable)
    (safer : c.Safer d) :
    Meets (fun s t => s.portfolio.RisksLess t.portfolio)
      (portfolioStatistics live positions infos categories c period now)
      (portfolioStatistics live positions infos categories d period now) := by
  rw [portfolioStatistics, portfolioStatistics]
  -- the config enters at the roll-up only
  have each : ∀ g h : Int × List Position, g = h ∧ g ∈ positionsByAsset positions →
      Meets (fun s t => s = t ∧ s.2.grossValue.Unsigned)
        (groupStatistics live infos categories period now g)
        (groupStatistics live infos categories period now h) := by
    rintro g _ ⟨rfl, _⟩
    exact groupStatistics_unsigned live period now infos categories g
  refine (Meets.mapM (beside_itself _) each).bind ?_
  intro assets assets' same
  have statistics : List.Forall₂ (fun s t => s = t ∧ s.grossValue.Unsigned)
      (assets.map Prod.snd) (assets'.map Prod.snd) := by
    rw [List.forall₂_map_left_iff, List.forall₂_map_right_iff]
    exact same.imp fun _ _ related => ⟨congrArg Prod.snd related.1, related.2⟩
  refine (Portfolio.ofStatistics_risksLess statistics safer).lift.bind ?_
  exact fun p q risks => .pure risks

/-- **Monotony.**  With no smaller factors, multiplier and least collateral, no
less collateral is required of a party on a side of the quote for the same
positions, wherever both evaluations return. -/
theorem requiredCollateral_mono (live : LiveModel) (positions : List Position)
    (infos : Keyed Int AssetInfo) (categories : CategoryTable) (period : Value)
    (now : Int) (authority : Authority) (side : QuoteSide) (safer : c.Safer d)
    {m m' : Decimal} (upper : zero ≤ m) (multipliers : m ≤ m')
    {s t : PortfolioStatistics}
    (hs : portfolioStatistics live positions infos categories c period now =
      .ok s)
    (ht : portfolioStatistics live positions infos categories d period now =
      .ok t) {r r' : Decimal}
    (hr : requiredCollateral s.portfolio ⟨m, authority, side⟩ c = .ok r)
    (hr' : requiredCollateral t.portfolio ⟨m', authority, side⟩ d = .ok r') :
    r ≤ r' := by
  have risks := portfolioStatistics_risksLess live period now positions infos
    categories safer s t hs ht
  exact requiredCollateral_of_risksLess risks safer upper multipliers authority
    side r r' hr hr'

/-- The config of the small book with a larger overall factor. -/
def Sample.saferConfig : CollateralConfig :=
  { Sample.config with overallFactor := .one }

/-- The small book's loss is below zero, and sinks further with the overall
factor; what is required does not. -/
theorem sample_mono :
    ∃ p q r r', portfolioStatistics Sample.live Sample.book Sample.infos
      Sample.categories Sample.config
        (.whole 3600) 0 = .ok p ∧
      portfolioStatistics Sample.live Sample.book Sample.infos Sample.categories
        Sample.saferConfig (.whole 3600) 0 = .ok q ∧
      requiredCollateral p.portfolio ⟨.one, .maker, .ask⟩ Sample.config = .ok r ∧
      requiredCollateral q.portfolio
        ⟨.ofInt 2, .maker, .ask⟩ Sample.saferConfig = .ok r' ∧
      ¬ p.portfolio.maxLoss ≤ q.portfolio.maxLoss ∧ r ≤ r' := by
  have run : portfolioStatistics Sample.live Sample.book Sample.infos
      Sample.categories Sample.config (.whole 3600) 0 =
        .ok Sample.statistics := by decide +kernel
  have run' : portfolioStatistics Sample.live Sample.book Sample.infos
      Sample.categories Sample.saferConfig (.whole 3600) 0 =
        .ok { Sample.statistics with portfolio :=
          ⟨.finite true 775000 (-5), .finite false 5225000 (-5)⟩ } := by
    decide +kernel
  have required : requiredCollateral Sample.statistics.portfolio
      ⟨.one, .maker, .ask⟩ Sample.config =
        .ok (.finite false 5000000 (-6)) := by decide +kernel
  have required' :
      requiredCollateral ⟨.finite true 775000 (-5), .finite false 5225000 (-5)⟩
      ⟨.ofInt 2, .maker, .ask⟩ Sample.saferConfig =
        .ok (.finite false 5000000 (-6)) := by decide +kernel
  have safer : Sample.config.Safer Sample.saferConfig :=
    ⟨rfl, by decide +kernel, by decide +kernel, by decide +kernel, le_rfl⟩
  exact ⟨_, _, _, _, run, run', required, required', by decide +kernel,
    requiredCollateral_mono Sample.live Sample.book Sample.infos
      Sample.categories (.whole 3600) 0 .maker .ask safer (by decide +kernel)
      (by decide +kernel) run run' required required'⟩

end ScenarioMargin
