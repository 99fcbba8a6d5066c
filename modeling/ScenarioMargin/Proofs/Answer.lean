/-
ScenarioMargin/Proofs/Answer.lean

What a maker locks to answer a request.  An answer with one quote is evaluated
in one case (`forResponse_only`), and an answer with two quotes in two cases
from the same statistics of the same legs, of which the larger amount is locked
(`forResponse_both`).  Amounts are no NaNs, so two amounts can always be
compared: an answer with two quotes fails only where one of its quotes would
fail alone.

A maker on one side of the quote stands where the taker stands on the other
side.  The same figure of the portfolio is at stake for both, so the very same
amount is required (`requiredCollateral_facing`).

Main result: `Estimator.forResponse_worst`.
-/
import ScenarioMargin.Proofs.Floor
import ScenarioMargin.Proofs.Mirror

namespace ScenarioMargin

open Decimal

/-- The answer that quotes one side alone. -/
def Response.only (side : QuoteSide) (quote : Quote) : Response :=
  match side with
  | .bid => ⟨some quote, none⟩
  | .ask => ⟨none, some quote⟩

/-! ### Cases -/

/-- A quote on one side makes one case. -/
theorem Rfq.makerCases_only (rfq : Rfq) (side : QuoteSide) (quote : Quote) :
    rfq.makerCases (.only side quote) =
      (do return [⟨← rfq.fixedSize.multiplier quote, .maker, side⟩]) := by
  cases side
  all_goals
    simp only [makerCases, List.mapM_cons, List.mapM_nil, makerCase,
      Response.only, Response.quote?]
    cases rfq.fixedSize.multiplier quote <;> rfl

/-- Two quotes make a case each. -/
theorem Rfq.makerCases_both (rfq : Rfq) (bid ask : Quote) :
    rfq.makerCases ⟨some bid, some ask⟩ = (do
      let m ← rfq.fixedSize.multiplier bid
      let n ← rfq.fixedSize.multiplier ask
      return [⟨m, .maker, .bid⟩, ⟨n, .maker, .ask⟩]) := by
  simp only [makerCases, List.mapM_cons, List.mapM_nil, makerCase, Response.quote?]
  cases rfq.fixedSize.multiplier bid <;> cases rfq.fixedSize.multiplier ask <;> rfl

/-- A maker on one side and the taker on the other side have the same at
stake. -/
theorem requiredCollateral_facing (portfolio : Portfolio) (m : Decimal)
    (side : QuoteSide) (config : CollateralConfig) :
    requiredCollateral portfolio ⟨m, .taker, side.opposite⟩ config =
      requiredCollateral portfolio ⟨m, .maker, side⟩ config := by
  have party : (⟨m, .taker, side⟩ : Case).isInverted =
      !(⟨m, .maker, side⟩ : Case).isInverted :=
    isInverted_authority ⟨m, .maker, side⟩
  have turned : (⟨m, .taker, side.opposite⟩ : Case).isInverted =
      (⟨m, .maker, side⟩ : Case).isInverted :=
    (isInverted_side ⟨m, .taker, side⟩).trans (by rw [party, Bool.not_not])
  rw [requiredCollateral, requiredCollateral, Portfolio.atStake,
    Portfolio.atStake, turned]

/-- The larger of two numbers is one of them and neither is above it. -/
theorem Decimal.isGreatest_larger {a b r : Decimal} (h : a.larger b = .ok r) :
    IsGreatest {a, b} r := by
  constructor
  · exact larger_eq_or h
  · rintro x (rfl | rfl)
    · exact le_larger_left h
    · exact le_larger_right h

/-! ### Answers -/

namespace Estimator

variable {live : LiveModel} {estimator : Estimator} {rfq : Rfq}

/-- An answer with one quote locks what the maker's case on its side
requires. -/
theorem forResponse_only (live : LiveModel) (estimator : Estimator) (rfq : Rfq)
    (side : QuoteSide) (quote : Quote) :
    estimator.forResponse live rfq (.only side quote) = (do
      let m ← rfq.fixedSize.multiplier quote
      let s ← estimator.statistics live rfq.legs rfq.period
      requiredCollateral s.portfolio ⟨m, .maker, side⟩ estimator.config) := by
  rw [forResponse, Rfq.makerCases_only, bind_assoc]
  refine bind_congr fun m => ?_
  simp only [pure_bind, List.isEmpty_cons, Bool.false_eq_true, if_false,
    required_eq, bind_assoc, List.mapM_cons, List.mapM_nil]
  refine bind_congr fun s => ?_
  cases requiredCollateral s.portfolio ⟨m, .maker, side⟩ estimator.config <;> rfl

/-- An answer with two quotes locks the larger of what the maker's cases on the
two sides require. -/
theorem forResponse_both (live : LiveModel) (estimator : Estimator) (rfq : Rfq)
    (bid ask : Quote) :
    estimator.forResponse live rfq ⟨some bid, some ask⟩ = (do
      let m ← rfq.fixedSize.multiplier bid
      let n ← rfq.fixedSize.multiplier ask
      let s ← estimator.statistics live rfq.legs rfq.period
      let b ← requiredCollateral s.portfolio ⟨m, .maker, .bid⟩ estimator.config
      let a ← requiredCollateral s.portfolio ⟨n, .maker, .ask⟩ estimator.config
      b.larger a) := by
  rw [forResponse, Rfq.makerCases_both]
  simp only [bind_assoc, pure_bind, List.isEmpty_cons, Bool.false_eq_true,
    if_false, required_eq, List.mapM_cons, List.mapM_nil]
  refine bind_congr fun m => bind_congr fun n => bind_congr fun s =>
    bind_congr fun b => bind_congr fun a => ?_
  simp only [largest, List.foldlM_cons, List.foldlM_nil]
  cases b.larger a <;> rfl

/-- What is locked for an answer is defined. -/
theorem defined_of_forResponse {response : Response} {locked : Decimal}
    (h : estimator.forResponse live rfq response = .ok locked) :
    locked ≤ locked := by
  obtain ⟨_, _, _, -, required⟩ := (Asks.response h).exists_case
  exact defined_of_requiredCollateral required

section Sides

variable {bid ask : Quote}

/-- An answer with two quotes locks the larger of what each would lock alone. -/
theorem forResponse_both_eq_ok {r : Decimal} :
    estimator.forResponse live rfq ⟨some bid, some ask⟩ = .ok r ↔
      ∃ b a, estimator.forResponse live rfq (.only .bid bid) = .ok b ∧
        estimator.forResponse live rfq (.only .ask ask) = .ok a ∧
        b.larger a = .ok r := by
  simp only [forResponse_both, forResponse_only, bind_eq_ok, lift_eq_ok]
  constructor
  · rintro ⟨m, hm, n, hn, s, hs, b, hb, a, ha, larger⟩
    exact ⟨b, a, ⟨m, hm, s, hs, hb⟩, ⟨n, hn, s, hs, ha⟩, larger⟩
  · rintro ⟨b, a, ⟨m, hm, s, hs, hb⟩, ⟨n, hn, s', hs', ha⟩, larger⟩
    obtain rfl := Except.ok.inj (hs.symm.trans hs')
    exact ⟨m, hm, n, hn, s, hs, b, hb, a, ha, larger⟩

/-- What stops an answer with two quotes would stop one of them alone. -/
theorem forResponse_both_eq_error {e : Fault}
    (h : estimator.forResponse live rfq ⟨some bid, some ask⟩ = .error e) :
    estimator.forResponse live rfq (.only .bid bid) = .error e ∨
      estimator.forResponse live rfq (.only .ask ask) = .error e := by
  simp only [forResponse_both, bind_eq_error, lift_eq_error, lift_eq_ok] at h
  simp only [forResponse_only, bind_eq_error, lift_eq_error]
  rcases h with bidSize
    | ⟨m, hm, askSize | ⟨n, hn,
      legs | ⟨s, hs, bidCase | ⟨b, hb, askCase | ⟨a, ha, _, larger, -⟩⟩⟩⟩⟩
  · exact .inl (.inl bidSize)
  · exact .inr (.inl askSize)
  · exact .inl (.inr ⟨m, hm, .inl legs⟩)
  · exact .inl (.inr ⟨m, hm, .inr ⟨s, hs, bidCase⟩⟩)
  · exact .inr (.inr ⟨n, hn, .inr ⟨s, hs, askCase⟩⟩)
  · -- amounts that are required can be compared
    obtain ⟨r, compared⟩ := larger_returns (defined_of_requiredCollateral hb)
      (defined_of_requiredCollateral ha)
    cases larger.symm.trans compared

end Sides

/-- The taker is asked on the other side for what the maker locks on one. -/
theorem required_facing {side : QuoteSide} {quote : Quote} {m : Decimal}
    (hm : rfq.fixedSize.multiplier quote = .ok m) :
    estimator.required live rfq.legs [⟨m, .taker, side.opposite⟩] rfq.period =
      (estimator.forResponse live rfq (.only side quote)).map ([·]) := by
  simp only [required_eq, forResponse_only, hm, List.mapM_cons, List.mapM_nil,
    requiredCollateral_facing]
  cases estimator.statistics live rfq.legs rfq.period with
  | error e => rfl
  | ok s =>
    show (do return [← requiredCollateral s.portfolio ⟨m, .maker, side⟩
        estimator.config]) =
      Except.map ([·]) (liftM (requiredCollateral s.portfolio ⟨m, .maker, side⟩
        estimator.config) : Except Fault Decimal)
    cases requiredCollateral s.portfolio ⟨m, .maker, side⟩ estimator.config <;> rfl

/-- **The worst side.**  For requests of any size restriction:

* An answer with two quotes locks an amount if and only if each of its quotes
  alone does, and then it locks the greater of the two amounts; what stops it
  would stop one of its quotes alone.
* An answer with one quote locks, or stops with, what the taker's case requires
  on the other side for the same number of times the legs, by itself or among
  other cases. -/
theorem forResponse_worst (live : LiveModel) (estimator : Estimator) (rfq : Rfq) :
    (∀ bid ask,
      ((∃ r, estimator.forResponse live rfq ⟨some bid, some ask⟩ = .ok r) ↔
        (∃ b, estimator.forResponse live rfq (.only .bid bid) = .ok b) ∧
          ∃ a, estimator.forResponse live rfq (.only .ask ask) = .ok a) ∧
      (∀ r b a, estimator.forResponse live rfq ⟨some bid, some ask⟩ = .ok r →
        estimator.forResponse live rfq (.only .bid bid) = .ok b →
        estimator.forResponse live rfq (.only .ask ask) = .ok a →
        b.larger a = .ok r ∧ IsGreatest {b, a} r) ∧
      ∀ e, estimator.forResponse live rfq ⟨some bid, some ask⟩ = .error e →
        estimator.forResponse live rfq (.only .bid bid) = .error e ∨
          estimator.forResponse live rfq (.only .ask ask) = .error e) ∧
    ∀ side quote m, rfq.fixedSize.multiplier quote = .ok m →
      estimator.required live rfq.legs [⟨m, .taker, side.opposite⟩] rfq.period =
          (estimator.forResponse live rfq (.only side quote)).map ([·]) ∧
        ∀ cases e, estimator.evaluate live rfq.legs cases rfq.period = .ok e →
          ∀ a, (⟨m, .taker, side.opposite⟩, a) ∈ e.required →
            estimator.forResponse live rfq (.only side quote) = .ok a := by
  refine ⟨fun bid ask => ⟨?_, ?_, fun e => forResponse_both_eq_error⟩,
    fun side quote m hm => ⟨required_facing hm, ?_⟩⟩
  · constructor
    · rintro ⟨r, h⟩
      obtain ⟨b, a, hb, ha, -⟩ := forResponse_both_eq_ok.mp h
      exact ⟨⟨b, hb⟩, a, ha⟩
    · rintro ⟨⟨b, hb⟩, a, ha⟩
      obtain ⟨r, larger⟩ :=
        larger_returns (defined_of_forResponse hb) (defined_of_forResponse ha)
      exact ⟨r, forResponse_both_eq_ok.mpr ⟨b, a, hb, ha, larger⟩⟩
  · intro r b a h hb ha
    obtain ⟨b', a', hb', ha', larger⟩ := forResponse_both_eq_ok.mp h
    obtain rfl := Except.ok.inj (hb.symm.trans hb')
    obtain rfl := Except.ok.inj (ha.symm.trans ha')
    exact ⟨larger, isGreatest_larger larger⟩
  · intro cases e run a mem
    obtain ⟨now, positions, infos, s, required, clock, resolved, found,
      statistics, each, rfl⟩ := evaluate_eq_ok.mp run
    obtain ⟨c, -, _, asked, same⟩ := exists_of_forall₂ each mem
    obtain ⟨rfl, rfl⟩ := Prod.mk.inj same
    rw [requiredCollateral_facing] at asked
    have stats : estimator.statistics live rfq.legs rfq.period = .ok s := by
      simp only [Estimator.statistics, bind_eq_ok]
      exact ⟨now, clock, positions, resolved, infos, found, statistics⟩
    simp only [forResponse_only, bind_eq_ok, lift_eq_ok]
    exact ⟨m, hm, s, stats, asked⟩

end Estimator

/-- A request to trade legs for an amount of the quote asset. -/
def Sample.amountRequest : Rfq :=
  { Sample.request with fixedSize := .quote (.ofInt 100) }

/-- The bid commits to more of the legs, and it is on the side that can lose;
the ask locks the least collateral. -/
theorem sample_answer :
    ∃ r b a, Sample.estimator.forResponse Sample.live Sample.amountRequest
        ⟨some (.fixed (.ofInt 30)), some (.fixed (.ofInt 80))⟩ = .ok r ∧
      Sample.estimator.forResponse Sample.live Sample.amountRequest
        (.only .bid (.fixed (.ofInt 30))) = .ok b ∧
      Sample.estimator.forResponse Sample.live Sample.amountRequest
        (.only .ask (.fixed (.ofInt 80))) = .ok a ∧
      IsGreatest {b, a} r ∧
      r = .finite false 8066666665860000000000000000 (-26) ∧
      a = .finite false 5000000 (-6) ∧
      Sample.amountRequest.fixedSize.multiplier (.fixed (.ofInt 30)) =
        .ok (.finite false 3333333333 (-9)) ∧
      Sample.estimator.required Sample.live Sample.amountRequest.legs
        [⟨.finite false 3333333333 (-9), .taker, .ask⟩]
        Sample.amountRequest.period = .ok [b] := by
  obtain ⟨both, single⟩ := Estimator.forResponse_worst Sample.live
    Sample.estimator Sample.amountRequest
  have bid : Sample.estimator.forResponse Sample.live Sample.amountRequest
      (.only .bid (.fixed (.ofInt 30))) =
        .ok (.finite false 8066666665860000000000000000 (-26)) := by
        decide +kernel
  have ask : Sample.estimator.forResponse Sample.live Sample.amountRequest
      (.only .ask (.fixed (.ofInt 80))) = .ok (.finite false 5000000 (-6)) := by
        decide +kernel
  have size : Sample.amountRequest.fixedSize.multiplier (.fixed (.ofInt 30)) =
      .ok (.finite false 3333333333 (-9)) := by
    decide +kernel
  obtain ⟨r, run⟩ := (both _ _).1.mpr ⟨⟨_, bid⟩, _, ask⟩
  obtain ⟨larger, greatest⟩ := (both _ _).2.1 r _ _ run bid ask
  have locked :
      Decimal.larger (.finite false 8066666665860000000000000000 (-26))
        (.finite false 5000000 (-6)) =
      .ok (.finite false 8066666665860000000000000000 (-26)) := by decide +kernel
  have facing := (single .bid _ _ size).1
  rw [bid] at facing
  exact ⟨r, _, _, run, bid, ask, greatest,
    Except.ok.inj (larger.symm.trans locked), rfl, size, facing⟩

end ScenarioMargin
