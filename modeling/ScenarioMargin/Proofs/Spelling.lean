/-
ScenarioMargin/Proofs/Spelling.lean

Documents in two spellings.  A number in a document may be written as a whole
number, as a binary number or as a text, with zeros at its end, with an
exponent, with either sign of zero.  The form of a document (`Document.form`)
says where such numbers stand: factors, rates, volatilities, the changes of
scenarios, prices, amounts, strikes and multipliers.  Respelled documents
differ in nothing but how these are written, and what is written stands for the
same number.

Reading forgets the spelling, section by section: one lemma for each section
says that respelled ones are read together, with the same figures.  Payloads
forget it altogether, since they hold whole numbers of units.  What is read
goes into the engine, which takes numbers by value (`Proofs.ByValue`).

Main result: `Document.appraise_respelled`.
-/
import ScenarioMargin.Document
import ScenarioMargin.Proofs.ByValue
import ScenarioMargin.Proofs.Form
import ScenarioMargin.Proofs.Units

namespace ScenarioMargin

open Decimal

/-! ### The risk engine -/

namespace Form

/-- The numbers of a collateral section. -/
def collateral : Form :=
  record [("safety_price_shift_factor", amount), ("overall_safety_factor", amount)]

/-- The numbers of a scenario, which is a record or a pair. -/
def scenario : Form :=
  parts (named [("price", amount), ("volatility", amount)]) amount

/-- The numbers of a risk category. -/
def category : Form :=
  record [("interest_rate", amount), ("annualized_30_day_volatility", amount),
    ("scenarios", each scenario)]

end Form

variable {v w : Value}

theorem CollateralConfig.ofValue_respelled (h : Form.collateral.Respelled v w) :
    Agree False CollateralConfig.Same (CollateralConfig.ofValue v)
      (CollateralConfig.ofValue w) := by
  rw [CollateralConfig.ofValue, CollateralConfig.ofValue,
    h.getOr_eq "min_collateral_requirement" rfl,
    h.getOr_eq "collateral_mint_decimals" rfl,
    h.getOr_eq "collateral_for_variable_size_rfq_creation" rfl,
    h.getOr_eq "collateral_for_fixed_quote_amount_rfq_creation" rfl]
  refine (h.getOr rfl _).bind fun priceShift priceShift' shifts => ?_
  refine (h.getOr rfl _).bind fun overall overall' factors => ?_
  refine Agree.bind_self _ fun _ => Agree.bind_self _ fun minimum => ?_
  refine Agree.bind_self _ fun _ => Agree.bind_self _ fun mintDecimals => ?_
  refine Agree.bind_self _ fun _ => Agree.bind_self _ fun variableSize => ?_
  refine Agree.bind_self _ fun _ => Agree.bind_self _ fun fixedQuote => ?_
  refine shifts.read.bind fun _ _ shift => ?_
  exact factors.read.bind fun _ _ factor =>
    .pure ⟨shift, factor, rfl, rfl, rfl, rfl⟩

/-- Scenarios whose changes are read as the same. -/
theorem Scenario.ofPair_respelled {price price' volatility volatility' : Value}
    (prices : Form.amount.Respelled price price')
    (volatilities : Form.amount.Respelled volatility volatility') :
    Agree False Scenario.Same (Scenario.ofPair price volatility)
      (Scenario.ofPair price' volatility') := by
  refine prices.read.bind fun _ _ priceChange => ?_
  exact volatilities.read.bind fun _ _ volatilityChange =>
    .pure ⟨priceChange, volatilityChange⟩

theorem Scenario.ofValue_respelled (h : Form.scenario.Respelled v w) :
    Agree False Scenario.Same (Scenario.ofValue v) (Scenario.ofValue w) := by
  rcases h with rfl | ⟨fs, gs, rfl, rfl, fields⟩ | ⟨vs, ws, rfl, rfl, items⟩
  · exact .refl (fun _ => ⟨rfl, rfl⟩) _
  · have h : Form.scenario.Respelled (.record fs) (.record gs) := .of_fields fields
    refine (h.getOr rfl _).bind fun price price' prices => ?_
    exact (h.getOr rfl _).bind fun volatility volatility' volatilities =>
      Scenario.ofPair_respelled prices volatilities
  · -- a list is a scenario when it has two items
    rcases items with _ | ⟨price, _ | ⟨volatility, _ | ⟨_, _⟩⟩⟩
    · exact .error False.elim
    · exact .error False.elim
    · exact Scenario.ofPair_respelled price volatility
    · exact .error False.elim

theorem CategoryInfo.ofValue_respelled (h : Form.category.Respelled v w) :
    Agree False CategoryInfo.Same (CategoryInfo.ofValue v)
      (CategoryInfo.ofValue w) := by
  refine (h.getOr rfl _).bind fun rate rate' rates => ?_
  refine (h.getOr rfl _).bind fun volatility volatility' volatilities => ?_
  refine (h.getOr rfl _).bind fun list list' lists => ?_
  refine lists.items.bind fun items items' same => ?_
  refine (Agree.mapM same fun _ _ scenario =>
    Scenario.ofValue_respelled scenario).bind ?_
  intro scenarios scenarios' changes
  refine rates.read.bind fun _ _ rate => ?_
  refine volatilities.read.bind fun _ _ volatility => ?_
  rw [CategoryInfo.make, CategoryInfo.make]
  by_cases complete : scenarios.length = bucketCount
  · rw [dif_pos complete, dif_pos (changes.length_eq ▸ complete)]
    exact .ok ⟨rate, volatility, changes⟩
  · rw [dif_neg complete, dif_neg (changes.length_eq ▸ complete)]
    exact .error False.elim

theorem CategoryTable.ofValue_respelled
    (h : (Form.table Form.category).Respelled v w) :
    Agree False (Keyed.Matches CategoryInfo.Same) (CategoryTable.ofValue v)
      (CategoryTable.ofValue w) := by
  refine h.fields.bind fun fields fields' entries => ?_
  have each : Agree False (Keyed.Matches CategoryInfo.Same)
      (fields.mapM CategoryTable.entry) (fields'.mapM CategoryTable.entry) := by
    refine Agree.mapM entries ?_
    rintro ⟨name, v⟩ ⟨_, w⟩ ⟨rfl, figures⟩
    refine Agree.bind_self _ fun category => ?_
    exact (CategoryInfo.ofValue_respelled figures).bind fun _ _ same =>
      .pure ⟨rfl, same⟩
  exact each.bind fun table table' same => .pure same.ofEntries

/-! ### Base assets -/

namespace Form

/-- The number of a base asset. -/
def asset : Form :=
  record [("price", price)]

end Form

/-- Base assets of a document with the same price, if any. -/
structure AssetEntry.Same (e e' : AssetEntry) : Prop where
  index : e.index = e'.index
  profile : e.profile = e'.profile
  price : Option.Rel Value.SamePrice e.price e'.price

/-- A price is a number, and finite in all spellings or in none. -/
theorem Form.Respelled.samePrice (h : Form.price.Respelled v w) :
    v.SamePrice w := by
  intro address
  have same := h.read
  rw [OracleValue.price, OracleValue.price]
  generalize (OracleValue.value v).number = x,
    (OracleValue.value w).number = y at same ⊢
  cases same with
  | error _ => exact .error False.elim
  | @ok a b same =>
    dsimp only
    rw [same.isFinite]
    split_ifs
    · exact .ok same
    · exact .error False.elim

theorem AssetEntry.ofValue_respelled (h : Form.asset.Respelled v w) :
    Agree False AssetEntry.Same (AssetEntry.ofValue v) (AssetEntry.ofValue w) := by
  rw [AssetEntry.ofValue, AssetEntry.ofValue, h.need_eq "index" rfl,
    h.need_eq "risk_category" rfl]
  refine Agree.bind_self _ fun _ => Agree.bind_self _ fun index => ?_
  refine Agree.bind_self _ fun standard => ?_
  rw [h.getOr_eq "oracle" rfl]
  refine Agree.bind_self _ fun _ => Agree.bind_self _ fun oracle => ?_
  refine Agree.bind_self _ fun _ => Agree.bind_self _ fun category => ?_
  refine (h.get "price").bind ?_
  rintro _ _ (price | _)
  · exact .pure ⟨rfl, rfl, .some (Form.Respelled.samePrice price)⟩
  · exact .pure ⟨rfl, rfl, .none⟩

theorem assetEntries_respelled (h : (Form.each Form.asset).Respelled v w) :
    Agree False (List.Forall₂ AssetEntry.Same) (assetEntries v) (assetEntries w) :=
  h.items.bind fun _ _ items => Agree.mapM items fun _ _ asset =>
    AssetEntry.ofValue_respelled asset

section Entries

variable {entries entries' : List AssetEntry}
  (h : List.Forall₂ AssetEntry.Same entries entries')

include h

theorem profilesOf_same : profilesOf entries = profilesOf entries' :=
  congrArg Keyed.ofEntries
    (map_eq_of_forall₂ h fun _ _ same => by rw [same.index, same.profile])

theorem pricesOf_same :
    Keyed.Matches Value.SamePrice (pricesOf entries) (pricesOf entries') := by
  refine Keyed.Matches.ofEntries (List.rel_filterMap ?_ h)
  rintro ⟨index, profile, price⟩ ⟨_, _, price'⟩ ⟨rfl, rfl, same⟩
  cases same with
  | none => exact .none
  | some same => exact .some ⟨rfl, same⟩

end Entries

/-! ### Payloads -/

theorem wholePart_same {a b : Decimal} (h : a.Same b) :
    Agree False Eq a.wholePart b.wholePart := by
  rcases a with ⟨s, c, e⟩ | s | ⟨s, m, p⟩ <;>
    rcases b with ⟨t, d, f⟩ | t | ⟨t, k, q⟩
  case finite.finite =>
    have value : spelled s c e = spelled t d f := Quantity.rational.inj h
    rw [wholePart_finite, wholePart_finite, value]
    exact .ok rfl
  case infinity.infinity | nan.nan => exact .error False.elim
  all_goals cases h

/-- An amount is a number of whole units in every spelling. -/
theorem FixedPoint.toRaw_same {a b : Decimal} (h : a.Same b) (decimals : Int) :
    Agree False Eq (toRaw a decimals) (toRaw b decimals) :=
  (h.scale decimals).lift.bind fun _ _ scaled => wholePart_same scaled

namespace Form

/-- The numbers of an option. -/
def option : Form :=
  record [("amount_per_contract", amount), ("strike", amount)]

/-- The number of a future. -/
def future : Form :=
  record [("amount_per_contract", amount)]

/-- The numbers of a leg. -/
def leg : Form :=
  record [("amount", amount), ("option", option), ("future", future)]

end Form

theorem FixedPoint.rawOfValue_respelled (h : Form.amount.Respelled v w)
    (decimals : Value) :
    Agree False Eq (rawOfValue v decimals) (rawOfValue w decimals) := by
  refine h.read.bind fun a b same => ?_
  refine Agree.bind_self _ fun d => ?_
  refine (FixedPoint.toRaw_same same d).bind ?_
  rintro raw _ rfl
  exact .pure rfl

theorem OptionKind.ofDescription_respelled (h : Form.option.Respelled v w) :
    OptionKind.ofDescription v = OptionKind.ofDescription w := by
  rw [OptionKind.ofDescription, OptionKind.ofDescription, h.getOr_eq "type" rfl,
    h.getOr_eq "type" rfl]

/-- The payload of an option has the same bytes in every spelling. -/
theorem Payload.ofOptionValue_respelled (h : Form.option.Respelled v w) :
    Agree False Eq (Payload.ofOptionValue v) (Payload.ofOptionValue w) := by
  rw [ofOptionValue, ofOptionValue, OptionKind.ofDescription_respelled h,
    h.need_eq "expiration" rfl]
  refine Agree.bind_self _ fun kind => ?_
  refine (h.getOr rfl _).bind fun amount amount' amounts => ?_
  refine (h.need rfl).bind fun strike strike' strikes => ?_
  refine Agree.bind_self _ fun _ => Agree.bind_self _ fun expiration => ?_
  refine (FixedPoint.rawOfValue_respelled amounts _).bind ?_
  rintro rawAmount _ rfl
  refine (FixedPoint.rawOfValue_respelled strikes _).bind ?_
  rintro rawStrike _ rfl
  exact Agree.refl (fun _ => rfl) _

theorem Payload.ofFutureValue_respelled (h : Form.future.Respelled v w) :
    Agree False Eq (Payload.ofFutureValue v) (Payload.ofFutureValue w) := by
  refine (h.getOr rfl _).bind fun amount amount' amounts => ?_
  refine amounts.read.bind fun a b same => ?_
  refine (FixedPoint.toRaw_same same _).bind ?_
  rintro raw _ rfl
  exact Agree.refl (fun _ => rfl) _

theorem Payload.ofValue_respelled (h : Form.leg.Respelled v w) :
    Agree False Eq (Payload.ofValue v) (Payload.ofValue w) := by
  rw [Payload.ofValue, Payload.ofValue, h.has, h.has, h.has, h.need_eq "data" rfl]
  refine Agree.bind_self _ fun written => ?_
  split_ifs
  · exact Agree.refl (fun _ => rfl) _
  refine Agree.bind_self _ fun option => ?_
  split_ifs
  · exact (h.need rfl).bind fun _ _ figures =>
      Payload.ofOptionValue_respelled figures
  refine Agree.bind_self _ fun future => ?_
  split_ifs
  · exact (h.need rfl).bind fun _ _ figures =>
      Payload.ofFutureValue_respelled figures
  · exact .pure rfl

/-! ### Legs and cases -/

theorem Leg.make_same {a b : Decimal} (h : a.Same b) (baseAsset : Int)
    (side : LegSide) (program : String) (data : List UInt8) :
    Agree False Leg.Same (Leg.make baseAsset a side program data)
      (Leg.make baseAsset b side program data) := by
  have order : a.lt zero = b.lt zero := by
    rw [lt, lt, compare?_quantity, compare?_quantity, h]
  unfold Leg.make
  split
  case h_1 unsigned =>
    split
    case h_1 => exact .ok ⟨rfl, h, rfl, rfl, rfl⟩
    case h_2 below => cases unsigned.symm.trans (order.trans below)
    case h_3 fault => cases unsigned.symm.trans (order.trans fault)
  case h_2 below =>
    split
    case h_1 unsigned => cases below.symm.trans (order.trans unsigned)
    all_goals exact .error False.elim
  case h_3 fault =>
    split
    case h_1 unsigned => cases fault.symm.trans (order.trans unsigned)
    all_goals exact .error False.elim

theorem Leg.ofValue_respelled (h : Form.leg.Respelled v w) :
    Agree False Leg.Same (Leg.ofValue v) (Leg.ofValue w) := by
  rw [Leg.ofValue, Leg.ofValue, h.need_eq "base_asset" rfl,
    h.getOr_eq "side" rfl, h.need_eq "instrument" rfl]
  refine Agree.bind_self _ fun _ => Agree.bind_self _ fun baseAsset => ?_
  refine (h.need rfl).bind fun amount amount' amounts => ?_
  refine Agree.bind_self _ fun _ => Agree.bind_self _ fun side => ?_
  refine Agree.bind_self _ fun _ => Agree.bind_self _ fun program => ?_
  refine (Payload.ofValue_respelled h).bind ?_
  rintro data _ rfl
  exact amounts.read.bind fun a b same =>
    Leg.make_same same baseAsset side program data

namespace Form

/-- The number of a case. -/
def case : Form :=
  record [("legs_multiplier", amount)]

end Form

theorem Case.ofValue_respelled (h : Form.case.Respelled v w) :
    Agree False Case.Same (Case.ofValue v) (Case.ofValue w) := by
  rw [Case.ofValue, Case.ofValue, h.getOr_eq "authority" rfl, h.getOr_eq "side" rfl]
  refine (h.getOr rfl _).bind fun multiplier multiplier' multipliers => ?_
  refine Agree.bind_self _ fun _ => Agree.bind_self _ fun authority => ?_
  refine Agree.bind_self _ fun _ => Agree.bind_self _ fun side => ?_
  exact multipliers.read.bind fun a b same => .pure ⟨same, rfl, rfl⟩

theorem Leg.listOfValue_respelled (h : (Form.each Form.leg).Respelled v w) :
    Agree False (List.Forall₂ Leg.Same) (Leg.listOfValue v) (Leg.listOfValue w) :=
  h.items.bind fun _ _ items => Agree.mapM items fun _ _ leg =>
    Leg.ofValue_respelled leg

theorem Case.listOfValue_respelled (h : (Form.each Form.case).Respelled v w) :
    Agree False (List.Forall₂ Case.Same) (Case.listOfValue v)
      (Case.listOfValue w) :=
  h.items.bind fun _ _ items => Agree.mapM items fun _ _ asked =>
    Case.ofValue_respelled asked

/-! ### Whole documents -/

namespace Document

/-- The numbers of a document. -/
def form : Form :=
  .record [("base_assets", .each .asset), ("collateral", .collateral),
    ("risk_categories", .table .category), ("legs", .each .leg),
    ("cases", .each .case)]

/-- Documents with the same figures; the payloads of their legs have the same
bytes. -/
structure Same (d d' : Document) : Prop where
  name : d.name = d'.name
  config : d.config.Same d'.config
  categories : Keyed.Matches CategoryInfo.Same d.categories d'.categories
  registry : d.registry = d'.registry
  profiles : d.profiles = d'.profiles
  prices : Keyed.Matches Value.SamePrice d.prices d'.prices
  legs : List.Forall₂ Leg.Same d.legs d'.legs
  cases : List.Forall₂ Case.Same d.cases d'.cases
  period : d.period = d'.period
  now : d.now = d'.now

theorem ofValue_respelled (h : form.Respelled v w) :
    Agree False Same (ofValue v) (ofValue w) := by
  rw [ofValue, ofValue, h.getOr_eq "name" rfl, h.getOr_eq "instruments" rfl,
    h.getOr_eq "settlement_period" rfl, instant, instant, h.get_eq "now" rfl]
  refine (h.getOr rfl _).bind fun _ _ assetLists => ?_
  refine (assetEntries_respelled assetLists).bind fun entries entries' assets => ?_
  refine Agree.bind_self _ fun name => ?_
  refine (h.getOr rfl _).bind fun _ _ factors => ?_
  refine (CollateralConfig.ofValue_respelled factors).bind
    fun config config' configs => ?_
  refine (h.getOr rfl _).bind fun _ _ categoryTables => ?_
  refine (CategoryTable.ofValue_respelled categoryTables).bind
    fun categories categories' tables => ?_
  refine Agree.bind_self _ fun _ => Agree.bind_self _ fun registry => ?_
  refine (h.getOr rfl _).bind fun _ _ legLists => ?_
  refine (Leg.listOfValue_respelled legLists).bind fun legs legs' sameLegs => ?_
  refine (h.getOr rfl _).bind fun _ _ caseLists => ?_
  refine (Case.listOfValue_respelled caseLists).bind
    fun cases cases' sameCases => ?_
  refine Agree.bind_self _ fun _ => Agree.bind_self _ fun period => ?_
  refine Agree.bind_self _ fun now => ?_
  exact .pure ⟨rfl, configs, tables, rfl, profilesOf_same assets,
    pricesOf_same assets, sameLegs, sameCases, rfl, rfl⟩

/-- Documents with the same figures set estimators with the same figures up. -/
theorem Same.estimator {d d' : Document} (h : d.Same d') (clock : Value) :
    (d.estimator clock).Same (d'.estimator clock) :=
  ⟨h.config, h.categories, h.registry, h.profiles, h.prices,
    by rw [Document.estimator, Document.estimator, h.now]⟩

/-- The evaluation of a document that has yet to be read. -/
def appraise (live : LiveModel) (clock v : Value) : Except Fault Evaluation := do
  let d ← ofValue v
  (d.estimator clock).evaluate live d.legs d.cases (.whole d.period)

theorem appraise_same {live : LiveModel} (byValue : live.ByValue)
    (h : form.Respelled v w) (clock : Value) :
    Agree False Evaluation.Same (appraise live clock v)
      (appraise live clock w) := by
  refine (ofValue_respelled h).bind fun d d' same => ?_
  rw [same.period]
  exact Estimator.evaluate_same
    (same.estimator clock) byValue same.legs same.cases _

end Document

/-! ### A document in two spellings -/

namespace Sample

/-- A document about an option that has just expired, its numbers left open. -/
def document (shift rate volatility change price amount perContract strike
      multiplier : Value) : Value :=
  .record [
    ("collateral", .record [("safety_price_shift_factor", shift)]),
    ("risk_categories", .record
      [("low", .record [("interest_rate", rate),
        ("annualized_30_day_volatility", volatility),
      ("scenarios",
        .list (List.replicate bucketCount (.list [change, .whole 0])))])]),
    ("instruments", .record [("program", .text "option")]),
    ("base_assets", .list [.record [("index", .whole 0),
      ("risk_category", .text "low"), ("price", price)]]),
    ("legs", .list [.record [("base_asset", .whole 0), ("amount", amount),
      ("instrument", .text "program"),
      ("option", .record [("amount_per_contract", perContract),
        ("strike", strike), ("expiration", .whole 10)])]]),
    ("cases", .list [.record [("legs_multiplier", multiplier)]]),
    ("now", .whole 10)]

/-- Whole and binary numbers throughout. -/
def plain : Value :=
  document (.real 0.01) (.whole 0) (.whole 1) (.real 0.1) (.whole 100)
    (.real 2.5) (.whole 1) (.whole 90) (.whole 3)

/-- Most of the same numbers as texts. -/
def written : Value :=
  document (.text "1E-2") (.text "-0.00") (.text "1.000") (.text "0.10")
    (.text "1e2") (.text "2.5000") (.real 1.0) (.text "+9_0") (.text "3")

theorem document_respelled
    {shift rate volatility change price amount perContract strike
      multiplier shift' rate'
    volatility' change' price' amount' perContract' strike' multiplier' : Value}
    (shifts : Form.amount.Respelled shift shift')
    (rates : Form.amount.Respelled rate rate')
    (volatilities : Form.amount.Respelled volatility volatility')
    (changes : Form.amount.Respelled change change')
    (prices : Form.price.Respelled price price')
    (amounts : Form.amount.Respelled amount amount')
    (contracts : Form.amount.Respelled perContract perContract')
    (strikes : Form.amount.Respelled strike strike')
    (multipliers : Form.amount.Respelled multiplier multiplier') :
    Document.form.Respelled (document shift rate volatility change price amount
      perContract strike multiplier)
      (document shift' rate' volatility' change' price' amount' perContract'
        strike' multiplier') := by
  have scenario : Form.scenario.Respelled (.list [change, .whole 0])
      (.list [change', .whole 0]) :=
    .of_items (.cons changes (.cons (.refl _ _) .nil))
  have category : Form.category.Respelled
      (.record
        [("interest_rate", rate), ("annualized_30_day_volatility", volatility),
        ("scenarios",
          .list (List.replicate bucketCount (.list [change, .whole 0])))])
      (.record [("interest_rate", rate'),
        ("annualized_30_day_volatility", volatility'),
        ("scenarios", .list
          (List.replicate bucketCount (.list [change', .whole 0])))]) := by
    refine .of_fields (.cons ⟨rfl, rates⟩
      (.cons ⟨rfl, volatilities⟩ (.cons ⟨rfl, .of_items ?_⟩ .nil)))
    exact .cons scenario (.cons scenario
      (.cons scenario (.cons scenario (.cons scenario (.cons scenario .nil)))))
  have option : Form.option.Respelled
      (.record [("amount_per_contract", perContract), ("strike", strike),
        ("expiration", .whole 10)])
      (.record [("amount_per_contract", perContract'), ("strike", strike'),
        ("expiration", .whole 10)]) :=
    .of_fields
      (.cons ⟨rfl, contracts⟩ (.cons ⟨rfl, strikes⟩ (.cons ⟨rfl, rfl⟩ .nil)))
  refine .of_fields (.cons ⟨rfl, .of_fields (.cons ⟨rfl, shifts⟩ .nil)⟩ ?_)
  refine .cons ⟨rfl, .of_fields (.cons ⟨rfl, category⟩ .nil)⟩ (.cons ⟨rfl, rfl⟩ ?_)
  refine .cons ⟨rfl, .of_items (.cons (.of_fields
    (.cons ⟨rfl, rfl⟩ (.cons ⟨rfl, rfl⟩ (.cons ⟨rfl, prices⟩ .nil)))) .nil)⟩ ?_
  refine .cons ⟨rfl, .of_items (.cons (.of_fields ?_) .nil)⟩ ?_
  · exact .cons ⟨rfl, rfl⟩
      (.cons ⟨rfl, amounts⟩ (.cons ⟨rfl, rfl⟩ (.cons ⟨rfl, option⟩ .nil)))
  · exact .cons
      ⟨rfl, .of_items (.cons (.of_fields (.cons ⟨rfl, multipliers⟩ .nil)) .nil)⟩
      (.cons ⟨rfl, rfl⟩ .nil)

theorem plain_respelled : Document.form.Respelled plain written := by
  refine document_respelled ?_ ?_ ?_ ?_ ?_ ?_ ?_ ?_ ?_
  · exact .of_read (a := .finite false 1 (-2)) (b := .finite false 1 (-2))
      (by decide +kernel) (by decide +kernel) rfl
  · exact .of_read (a := .zero)
      (b := .finite true 0 (-2)) rfl (by decide +kernel) (by decide +kernel)
  · exact .of_read (a := .one)
      (b := .finite false 1000 (-3)) rfl (by decide +kernel) (by decide +kernel)
  · exact .of_read (a := .finite false 1 (-1)) (b := .finite false 10 (-2))
      (by decide +kernel) (by decide +kernel) (by decide +kernel)
  · exact .of_read (a := .ofInt 100)
      (b := .finite false 1 2) rfl (by decide +kernel) (by decide +kernel)
  · exact .of_read (a := .finite false 25 (-1)) (b := .finite false 25000 (-4))
      (by decide +kernel) (by decide +kernel) (by decide +kernel)
  · exact .of_read (a := .one)
      (b := .finite false 10 (-1)) rfl (by decide +kernel) (by decide +kernel)
  · exact .of_read (a := .ofInt 90) (b := .ofInt 90) rfl (by decide +kernel) rfl
  · exact .of_read (a := .ofInt 3) (b := .ofInt 3) rfl (by decide +kernel) rfl

theorem live_byValue : live.ByValue := by
  intro kind strike expiration now market market' same
  refine (same.price.sub (Same.refl strike)).lift.bind fun gap gap' gaps => ?_
  exact (gaps.larger (Same.refl zero)).lift

end Sample

/-! ### Numbers by value -/

namespace Document

/-- **Numbers count by value.**  Documents that differ in nothing but how their
numbers are written can be read together, with the same payloads byte by byte,
and they can be evaluated together, with the same statistics of each base
asset, the same loss and profit and the same required amounts. -/
theorem appraise_respelled {live : LiveModel} (byValue : live.ByValue)
    {v w : Value} (h : form.Respelled v w) (clock : Value) :
    ((∃ d, ofValue v = .ok d) ↔ ∃ d', ofValue w = .ok d') ∧
      (∀ d d', ofValue v = .ok d → ofValue w = .ok d' →
        d.legs.map Leg.data = d'.legs.map Leg.data) ∧
      ((∃ e, appraise live clock v = .ok e) ↔
        ∃ e', appraise live clock w = .ok e') ∧
      ∀ e e', appraise live clock v = .ok e → appraise live clock w = .ok e' →
        e.Same e' := by
  have reading := ofValue_respelled h
  have evaluations := appraise_same byValue h clock
  refine ⟨reading.returns_iff, ?_, evaluations.returns_iff, ?_⟩
  · intro d d' hd hd'
    rw [hd, hd'] at reading
    exact map_eq_of_forall₂ reading.of_ok_ok.legs fun _ _ same => same.data
  · intro e e' he he'
    rw [he, he'] at evaluations
    exact evaluations.of_ok_ok

end Document

/-- Both spellings require the same, in different digits. -/
theorem sample_respelled :
    Sample.live.ByValue ∧ Document.form.Respelled Sample.plain Sample.written ∧
      ∃ e e', Document.appraise Sample.live .null Sample.plain = .ok e ∧
        Document.appraise Sample.live .null Sample.written = .ok e' ∧ e.Same e' ∧
        e.required.map Prod.snd = [.finite false 757500000000000 (-13)] ∧
        e'.required.map Prod.snd = [.finite false 757500000000000000 (-16)] := by
  have law :=
    Document.appraise_respelled Sample.live_byValue Sample.plain_respelled .null
  have run : (Document.appraise Sample.live .null Sample.plain).map
      (fun e => e.required.map Prod.snd) =
        .ok [.finite false 757500000000000 (-13)] := by decide +kernel
  have run' : (Document.appraise Sample.live .null Sample.written).map
      (fun e => e.required.map Prod.snd) =
        .ok [.finite false 757500000000000000 (-16)] := by decide +kernel
  obtain ⟨e, he, required⟩ := map_eq_ok.mp run
  obtain ⟨e', he', required'⟩ := map_eq_ok.mp run'
  exact ⟨Sample.live_byValue, Sample.plain_respelled, e, e', he, he',
    law.2.2.2 e e' he he', required, required'⟩

end ScenarioMargin
