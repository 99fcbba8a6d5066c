/-
ScenarioMargin/Proofs/Lifecycle.lean

What a taker locks over the life of a request.  A request for a fixed number of
times the legs is evaluated on every side that its order allows, and the
largest amount is locked.  A confirmation is evaluated on one side alone.  Both
are evaluated from the same statistics of the same legs (`forRequest_eq_ok`,
`forConfirmation_eq_ok`), so a confirmation asks for one of the amounts that
the request was made from.

A taker may confirm a number of times the legs of its own.  It is cut to whole
units, toward zero, and what is required grows with the multiplier on whichever
side of zero the figure at stake is (`requiredCollateral_mono_multiplier`); so
with no more than was requested no more is required.

Main result: `Estimator.forConfirmation_le_forRequest`.
-/
import Mathlib.Order.Bounds.Defs
import ScenarioMargin.Rfq
import ScenarioMargin.Proofs.Decimal.Order
import ScenarioMargin.Proofs.Grouping
import ScenarioMargin.Proofs.Returns

namespace ScenarioMargin

open Decimal

/-! ### The largest amount -/

theorem Decimal.larger_eq_or {a b c : Decimal} (h : a.larger b = .ok c) :
    c = a ∨ c = b := by
  obtain ⟨below, -, h⟩ := bind_eq_ok.mp h
  cases below with
  | true => exact .inr (Except.ok.inj h).symm
  | false => exact .inl (Except.ok.inj h).symm

/-- The largest of amounts is one of them and none of them is above it. -/
theorem largest_isGreatest {as : List Decimal} {m : Decimal}
    (h : largest as = .ok m) (nonempty : as ≠ []) (defined : ∀ a ∈ as, a ≤ a) :
    IsGreatest {a | a ∈ as} m := by
  cases as with
  | nil => exact absurd rfl nonempty
  | cons a rest =>
    -- the largest so far stands in for what has been compared
    induction rest generalizing a with
    | nil =>
      obtain rfl := Except.ok.inj h
      refine ⟨List.mem_singleton_self a, ?_⟩
      intro b hb
      rw [List.mem_singleton.mp hb]
      exact defined a List.mem_cons_self
    | cons b rest ih =>
      obtain ⟨c, larger, h⟩ := foldlM_cons_eq_ok.mp h
      have upperA := le_larger_left larger
      have upperB := le_larger_right larger
      have later : ∀ d ∈ c :: rest, d ≤ d := by
        rintro d (_ | ⟨_, hd⟩)
        · exact le_refl_right upperA
        · exact defined d (List.mem_cons_of_mem a (List.mem_cons_of_mem b hd))
      obtain ⟨mem, upper⟩ := ih c h (List.cons_ne_nil c rest) later
      have bound : c ≤ m := upper List.mem_cons_self
      constructor
      · rcases List.mem_cons.mp mem with rfl | mem
        · rcases larger_eq_or larger with rfl | rfl <;> simp
        · exact List.mem_cons_of_mem a (List.mem_cons_of_mem b mem)
      · rintro d (_ | ⟨_, _ | ⟨_, hd⟩⟩)
        · exact Decimal.le_trans upperA bound
        · exact Decimal.le_trans upperB bound
        · exact upper (List.mem_cons_of_mem c hd)

/-! ### Cases -/

section Cases

variable {portfolio : Portfolio} {config : CollateralConfig} {r r' : Decimal}

/-- What is required is defined. -/
theorem defined_of_requiredCollateral {c : Case}
    (h : requiredCollateral portfolio c config = .ok r) : r ≤ r := by
  obtain ⟨risk, scaled, least, -, -, -, larger⟩ := requiredCollateral_eq_ok.mp h
  exact le_refl_right (le_larger_left larger)

/-- For more times the legs no less is required. -/
theorem requiredCollateral_mono_multiplier {m m' : Decimal} (more : m ≤ m')
    {authority : Authority} {side : QuoteSide}
    (h : requiredCollateral portfolio ⟨m, authority, side⟩ config = .ok r)
    (h' : requiredCollateral portfolio ⟨m', authority, side⟩ config = .ok r') :
    r ≤ r' := by
  obtain ⟨risk, scaled, least, raised, product, floor, larger⟩ :=
    requiredCollateral_eq_ok.mp h
  obtain ⟨risk', scaled', least', raised', product', floor', larger'⟩ :=
    requiredCollateral_eq_ok.mp h'
  obtain rfl := Except.ok.inj (raised.symm.trans raised')
  obtain rfl := Except.ok.inj (floor.symm.trans floor')
  have scales : scaled ≤ scaled' :=
    mul_mono_right (le_larger_right raised) more _ _ product product'
  exact larger_mono scales
    (le_refl_left (le_larger_right larger)) _ _ larger larger'

end Cases

/-! ### Multipliers -/

/-- Cutting an amount that is not negative to whole units does not make it
larger. -/
theorem FixedPoint.truncate_le {amount cut : Decimal} {decimals : Int}
    (upper : zero ≤ amount)
    (h : FixedPoint.truncate amount decimals = .ok cut) : cut ≤ amount := by
  obtain ⟨unit, hu, h⟩ := bind_eq_ok.mp h
  exact quantizeDown_le upper (isFinite_of_scale hu) h

/-- A quote on a fixed number of times the legs commits to that number. -/
theorem Rfq.confirmedMultiplier_none {rfq : Rfq} {multiplier m : Decimal}
    (size : rfq.fixedSize = .base multiplier)
    {response : Response} {side : QuoteSide}
    (h : rfq.confirmedMultiplier response side none = .ok m) :
    m = multiplier := by
  rw [Rfq.confirmedMultiplier] at h
  cases quote : response.quote? side with
  | none =>
    rw [quote] at h
    cases h
  | some q =>
    simp only [quote, size] at h
    cases q with
    | standard price m' => cases h
    | fixed price => exact (Except.ok.inj h).symm

/-- A multiplier of the taker's own that is not negative is not made larger. -/
theorem Rfq.confirmedMultiplier_some {rfq : Rfq} {response : Response}
    {side : QuoteSide} {own m : Decimal} (upper : zero ≤ own)
    (h : rfq.confirmedMultiplier response side (some own) = .ok m) : m ≤ own :=
  FixedPoint.truncate_le upper (lift_eq_ok.mp h)

/-! ### Sides -/

/-- The sides that a taker may confirm: who buys takes the ask, who sells takes
the bid. -/
inductive OrderType.Allows : OrderType → QuoteSide → Prop
  | buy : Allows .buy .ask
  | sell : Allows .sell .bid
  | twoWay (side : QuoteSide) : Allows .twoWay side

theorem OrderType.Allows.mem_sides {order : OrderType} {side : QuoteSide}
    (h : order.Allows side) {sides : List QuoteSide}
    (hs : order.sides = .ok sides) : side ∈ sides := by
  cases h with
  | buy =>
    obtain rfl := Except.ok.inj hs
    exact List.mem_singleton_self _
  | sell =>
    obtain rfl := Except.ok.inj hs
    exact List.mem_singleton_self _
  | twoWay =>
    obtain rfl := Except.ok.inj hs
    cases side <;> simp

/-- There is but one side, unless the order goes both ways. -/
theorem OrderType.Allows.sides_eq {order : OrderType} {side : QuoteSide}
    (h : order.Allows side) (oneWay : order ≠ .twoWay) :
    order.sides = .ok [side] := by
  cases h with
  | buy => rfl
  | sell => rfl
  | twoWay => exact absurd rfl oneWay

theorem OrderType.sides_ne_nil {order : OrderType} {sides : List QuoteSide}
    (h : order.sides = .ok sides) : sides ≠ [] := by
  cases order with
  | unrecognised shown => cases h
  | _ =>
    obtain rfl := Except.ok.inj h
    exact List.cons_ne_nil _ _

/-! ### Evaluations -/

/-- Results collected beside what they are results of, and then alone. -/
theorem mapM_beside {ε α β : Type} (f : α → Except ε β) (as : List α) :
    (do return (← as.mapM fun a => do return (a, ← f a)).map Prod.snd) =
      as.mapM f := by
  induction as with
  | nil => rfl
  | cons a as ih =>
    simp only [List.mapM_cons, bind_assoc, pure_bind, List.map_cons, ← ih]

namespace Estimator

variable {live : LiveModel} {estimator : Estimator}

/-- The statistics of legs, which all cases are evaluated from. -/
def statistics (live : LiveModel) (estimator : Estimator) (legs : List Leg)
    (period : Value) : Except Fault PortfolioStatistics := do
  let now ← estimator.clock.toWhole
  let positions ← estimator.positions legs
  let infos ← estimator.assets positions
  portfolioStatistics live positions infos estimator.categories
    estimator.config period now

theorem required_eq (live : LiveModel) (estimator : Estimator) (legs : List Leg)
    (cases : List Case) (period : Value) :
    estimator.required live legs cases period = (do
      let s ← estimator.statistics live legs period
      cases.mapM fun c => requiredCollateral s.portfolio c estimator.config) := by
  simp only [required, evaluate, statistics, bind_assoc, pure_bind, mapM_beside]

/-- The steps from legs to what each of some cases requires. -/
theorem required_eq_ok {legs : List Leg} {cases : List Case} {period : Value}
    {amounts : List Decimal} :
    estimator.required live legs cases period = .ok amounts ↔
      ∃ s, estimator.statistics live legs period = .ok s ∧
        List.Forall₂
          (fun c a => requiredCollateral s.portfolio c estimator.config = .ok a)
          cases amounts := by
  simp only [required_eq, bind_eq_ok, mapM_eq_ok, lift_eq_ok]

variable {rfq : Rfq}

/-- The steps to what is locked for a request of a fixed number of times the
legs. -/
theorem forRequest_eq_ok {multiplier created : Decimal}
    (size : rfq.fixedSize = .base multiplier) :
    estimator.forRequest live rfq = .ok created ↔
      ∃ sides s amounts, rfq.orderType.sides = .ok sides ∧
        estimator.statistics live rfq.legs rfq.period = .ok s ∧
        List.Forall₂ (fun side a => requiredCollateral s.portfolio
          ⟨multiplier, .taker, side⟩ estimator.config = .ok a)
          sides amounts ∧
        largest amounts = .ok created := by
  rw [forRequest]
  simp only [size, Rfq.takerCases, bind_eq_ok, pure_eq_ok, lift_eq_ok,
    required_eq_ok]
  constructor
  · rintro ⟨_, ⟨sides, hsides, rfl⟩, amounts, ⟨s, hs, each⟩, h⟩
    exact ⟨sides, s, amounts, hsides, hs, List.forall₂_map_left_iff.mp each, h⟩
  · rintro ⟨sides, s, amounts, hsides, hs, each, h⟩
    exact ⟨_, ⟨sides, hsides, rfl⟩, amounts,
      ⟨s, hs, List.forall₂_map_left_iff.mpr each⟩, h⟩

/-- The steps to what is locked for a confirmation. -/
theorem forConfirmation_eq_ok {response : Response} {side : QuoteSide}
    {own : Option Decimal} {confirmed : Decimal} :
    estimator.forConfirmation live rfq response side own = .ok confirmed ↔
      ∃ m s, rfq.confirmedMultiplier response side own = .ok m ∧
        estimator.statistics live rfq.legs rfq.period = .ok s ∧
        requiredCollateral s.portfolio ⟨m, .taker, side⟩ estimator.config =
          .ok confirmed := by
  simp only [forConfirmation, bind_eq_ok, lift_eq_ok, required_eq_ok]
  constructor
  · rintro ⟨m, hm, amounts, ⟨s, hs, each⟩, h⟩
    obtain ⟨a, rest, required, others, rfl⟩ := List.forall₂_cons_left_iff.mp each
    obtain rfl := List.forall₂_nil_left_iff.mp others
    obtain rfl := Except.ok.inj h
    exact ⟨m, s, hm, hs, required⟩
  · rintro ⟨m, s, hm, hs, required⟩
    exact ⟨m, hm, [confirmed], ⟨s, hs, .cons required .nil⟩, rfl⟩

/-! ### Requests -/

/-- Of the amounts that some cases require, the largest is one that none is
above. -/
theorem isGreatest_of_required {ι : Type} {asked : ι → Case}
    {portfolio : Portfolio} {config : CollateralConfig} {is : List ι}
    {amounts : List Decimal} {a : Decimal} (each : List.Forall₂ (fun i a =>
      requiredCollateral portfolio (asked i) config = .ok a) is amounts)
    (some : is ≠ []) (h : largest amounts = .ok a) :
    IsGreatest {a | a ∈ amounts} a := by
  refine largest_isGreatest h ?_ ?_
  · rintro rfl
    exact some (List.forall₂_nil_right_iff.mp each)
  · intro b hb
    obtain ⟨i, -, required⟩ := exists_of_forall₂ each hb
    exact defined_of_requiredCollateral required

section Requests

variable {multiplier created : Decimal} (size : rfq.fixedSize = .base multiplier)
variable (request : estimator.forRequest live rfq = .ok created)

/-- What is locked for a request is the largest of what its sides require. -/
theorem isGreatest_of_sides {s : PortfolioStatistics} {sides : List QuoteSide}
    {amounts : List Decimal} (hsides : rfq.orderType.sides = .ok sides)
    (each : List.Forall₂ (fun side a =>
      requiredCollateral s.portfolio
        ⟨multiplier, .taker, side⟩ estimator.config = .ok a) sides amounts)
    (h : largest amounts = .ok created) : IsGreatest {a | a ∈ amounts} created :=
  isGreatest_of_required each (OrderType.sides_ne_nil hsides) h

include size request

/-- A request covers what each side requires that its order allows, and an
order that goes one way no more than that. -/
theorem covered_of_forRequest {side : QuoteSide}
    (allowed : rfq.orderType.Allows side) :
    ∃ s amount, estimator.statistics live rfq.legs rfq.period = .ok s ∧
      requiredCollateral s.portfolio ⟨multiplier, .taker,
        side⟩ estimator.config = .ok amount ∧ amount ≤ created ∧
      (rfq.orderType ≠ .twoWay → amount = created) := by
  obtain ⟨sides, s, amounts, hsides, hs, each, h⟩ :=
    (forRequest_eq_ok size).mp request
  have greatest := isGreatest_of_sides hsides each h
  obtain ⟨amount, among, required⟩ :=
    exists_of_forall₂ each.flip (allowed.mem_sides hsides)
  refine ⟨s, amount, hs, required, greatest.2 among, ?_⟩
  intro oneWay
  obtain rfl := Except.ok.inj ((allowed.sides_eq oneWay).symm.trans hsides)
  obtain ⟨a, _, -, none, rfl⟩ := List.forall₂_cons_left_iff.mp each
  obtain rfl := List.forall₂_nil_left_iff.mp none
  rw [List.mem_singleton.mp among, List.mem_singleton.mp greatest.1]

/-- A request either way locks the greater of what a request to buy and a
request to sell lock. -/
theorem isGreatest_of_twoWay (twoWay : rfq.orderType = .twoWay) :
    ∃ bought sold,
      estimator.forRequest live { rfq with orderType := .buy } = .ok bought ∧
      estimator.forRequest live { rfq with orderType := .sell } = .ok sold ∧
      IsGreatest {bought, sold} created := by
  obtain ⟨sides, s, amounts, hsides, hs, each, h⟩ :=
    (forRequest_eq_ok size).mp request
  have greatest := isGreatest_of_sides hsides each h
  rw [twoWay] at hsides
  obtain rfl := Except.ok.inj hsides
  obtain ⟨bought, _, buy, others, rfl⟩ := List.forall₂_cons_left_iff.mp each
  obtain ⟨sold, _, sell, none, rfl⟩ := List.forall₂_cons_left_iff.mp others
  obtain rfl := List.forall₂_nil_left_iff.mp none
  refine ⟨bought, sold, ?_, ?_, ?_⟩
  · refine (forRequest_eq_ok ?_).mpr
      ⟨[.ask], s, [bought], rfl, hs, .cons buy .nil, rfl⟩
    exact size
  · refine (forRequest_eq_ok ?_).mpr
      ⟨[.bid], s, [sold], rfl, hs, .cons sell .nil, rfl⟩
    exact size
  · have both : {a | a ∈ [bought, sold]} = ({bought, sold} : Set Decimal) := by
      ext a
      simp
    rwa [← both]

end Requests

/-! ### Coverage -/

/-- **Coverage.**  When a request of a fixed number of times the legs is made,
the taker locks at least what a confirmation on any side that the order allows
asks for, with the requested number of times the legs or with a number of the
taker's own from zero to that.  An order that goes one way locks the very
amount that its confirmation asks for, and one that goes both ways the greater
of what an order to buy and an order to sell lock. -/
theorem forConfirmation_le_forRequest (live : LiveModel) (estimator : Estimator)
    {multiplier : Decimal} (size : rfq.fixedSize = .base multiplier)
    (response : Response)
    {side : QuoteSide} (allowed : rfq.orderType.Allows side) {created : Decimal}
    (request : estimator.forRequest live rfq = .ok created) :
    (∀ confirmed,
      estimator.forConfirmation live rfq response side none = .ok confirmed →
      confirmed ≤ created ∧ (rfq.orderType ≠ .twoWay → confirmed = created)) ∧
    (rfq.orderType = .twoWay → ∃ bought sold,
      estimator.forRequest live { rfq with orderType := .buy } = .ok bought ∧
      estimator.forRequest live { rfq with orderType := .sell } = .ok sold ∧
      IsGreatest {bought, sold} created) ∧
    ∀ own confirmed, zero ≤ own → own ≤ multiplier →
      estimator.forConfirmation live rfq response side (some own) =
        .ok confirmed → confirmed ≤ created := by
  -- the legs have the same statistics when a side is confirmed
  obtain ⟨s, amount, hs, required, covers, oneWay⟩ :=
    covered_of_forRequest size request allowed
  refine ⟨?_, isGreatest_of_twoWay size request, ?_⟩
  · intro confirmed confirmation
    obtain ⟨m, s', hm, hs', h⟩ := forConfirmation_eq_ok.mp confirmation
    obtain rfl := Except.ok.inj (hs.symm.trans hs')
    obtain rfl := Rfq.confirmedMultiplier_none size hm
    obtain rfl := Except.ok.inj (required.symm.trans h)
    exact ⟨covers, oneWay⟩
  · intro own confirmed upper within confirmation
    obtain ⟨m, s', hm, hs', h⟩ := forConfirmation_eq_ok.mp confirmation
    obtain rfl := Except.ok.inj (hs.symm.trans hs')
    have less : m ≤ multiplier :=
      Decimal.le_trans (Rfq.confirmedMultiplier_some upper hm) within
    exact Decimal.le_trans
      (requiredCollateral_mono_multiplier less h required) covers

end Estimator

namespace Sample

/-- An estimator that knows two programs and one base asset. -/
def estimator : Estimator where
  config := config
  categories := categories
  registry := [("spot", .spot), ("option", .option)]
  profiles := [(0, ⟨.low, "a"⟩)]
  prices := [("a", .whole 100)]
  clock := .whole 0

/-- A call at the strike of 100, until the instant 10. -/
def call : List UInt8 :=
  [0, 0x00, 0xCA, 0x9A, 0x3B, 0, 0, 0, 0, 9, 0x00, 0xE8, 0x76, 0x48, 0x17, 0, 0,
    0, 9, 10, 0, 0, 0, 0, 0, 0, 0]

/-- A request to trade spot against calls either way, two and a half times. -/
def request : Rfq where
  legs :=
    [⟨0, .finite false 2 0, .long, "spot", [], by decide +kernel⟩,
     ⟨0, .finite false 3 0, .short, "option", call, by decide +kernel⟩]
  fixedSize := .base (.finite false 25 (-1))
  orderType := .twoWay
  period := .whole 3600

def response : Response :=
  ⟨some (.fixed .one), some (.fixed .one)⟩

end Sample

/-- The request locks what its ask requires.  A confirmation of the ask for a
little less asks for a little less, and one of the bid asks for the least
collateral. -/
theorem sample_confirmations :
    ∃ created,
      Sample.estimator.forRequest Sample.live Sample.request = .ok created ∧
      (∃ confirmed, Sample.estimator.forConfirmation Sample.live Sample.request
        Sample.response .bid none = .ok confirmed ∧ confirmed ≤ created ∧
          ¬ created ≤ confirmed) ∧
      (∃ bought sold,
        Sample.estimator.forRequest Sample.live
          { Sample.request with orderType := .buy } = .ok bought ∧
        Sample.estimator.forRequest Sample.live
          { Sample.request with orderType := .sell } = .ok sold ∧
        IsGreatest {bought, sold} created) ∧
      ∃ confirmed, Sample.estimator.forConfirmation Sample.live Sample.request
        Sample.response .ask (some (.finite false 24999999999999 (-13))) =
          .ok confirmed ∧ confirmed ≤ created ∧ ¬ created ≤ confirmed := by
  have request : Sample.estimator.forRequest Sample.live Sample.request =
      .ok (.finite false 605000000000000000000000 (-22)) := by decide +kernel
  have bid : Sample.estimator.forConfirmation Sample.live Sample.request
      Sample.response .bid none = .ok (.finite false 5000000 (-6)) := by
        decide +kernel
  have ask : Sample.estimator.forConfirmation Sample.live Sample.request
      Sample.response .ask (some (.finite false 24999999999999 (-13))) =
        .ok (.finite false 6049999997580000000000000000 (-26)) := by
    decide +kernel
  have onBid := Estimator.forConfirmation_le_forRequest Sample.live
    Sample.estimator rfl Sample.response (OrderType.Allows.twoWay .bid) request
  have onAsk := Estimator.forConfirmation_le_forRequest Sample.live
    Sample.estimator rfl Sample.response (OrderType.Allows.twoWay .ask) request
  exact ⟨_, request, ⟨_, bid, (onBid.1 _ bid).1, by decide +kernel⟩, onBid.2.1 rfl,
    _, ask, onAsk.2.2 _ _ (by decide +kernel) (by decide +kernel) ask,
    by decide +kernel⟩

end ScenarioMargin
