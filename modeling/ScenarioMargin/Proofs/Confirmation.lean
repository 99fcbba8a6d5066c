/-
ScenarioMargin/Proofs/Confirmation.lean

Which quotes a taker may confirm.  A request refuses the quotes that do not fit
what it fixes of its size (`FixedSize.Refuses`): a fixed-size quote where the
size is open, a quote with a multiplier where it is not, a negative price or a
zero where an amount of the quote asset is to be divided by it.  These are the
faults of the caller's input that the multiplier of a quote can have, and there
are no others (`FixedSize.refuses_iff`).

A confirmation takes its multiplier from the quote, and then there must be a
quote that the request does not refuse.  A taker who confirms a multiplier of
its own is not asked for a quote: whatever the answer holds on that side, a
misfit or nothing at all, the outcome is the same.

Main result: `Estimator.forConfirmation_quoted`.
-/
import ScenarioMargin.Proofs.Lifecycle
import ScenarioMargin.Proofs.Sizing
import ScenarioMargin.Proofs.Stops

namespace ScenarioMargin

open Decimal

/-! ### Faults of the input -/

/-- The faults that lie in the caller's input. -/
def Fault.isInput : Fault → Bool
  | .negativeAmount _ => true
  | .payloadTooShort .. => true
  | .unknownOption _ => true
  | .futureOutOfRange => true
  | .optionOutOfRange _ => true
  | .notHex _ => true
  | .sizeLeftOpen => true
  | .sizeAlreadyFixed => true
  | .negativePrice => true
  | .zeroPrice => true
  | .unknownFixedSize _ => true
  | .unknownOrderType _ => true
  | .emptyResponse => true
  | .quoteMissing => true
  | _ => false

/-! ### Misfits -/

/-- The fault with which a size refuses a quote. -/
inductive FixedSize.Refuses : FixedSize → Quote → Fault → Prop
  | free (price : Decimal) : Refuses .free (.fixed price) .sizeLeftOpen
  | base (multiplier price own : Decimal) :
      Refuses (.base multiplier) (.standard price own) .sizeAlreadyFixed
  | quote (amount price own : Decimal) :
      Refuses (.quote amount) (.standard price own) .sizeAlreadyFixed
  | negative (amount : Decimal) {price : Decimal} (below : price ≤ zero)
      (some : price.isZero = false) :
    Refuses (.quote amount) (.fixed price) .negativePrice
  | zero (amount : Decimal) {price : Decimal} (none : price.isZero = true) :
    Refuses (.quote amount) (.fixed price) .zeroPrice
  | unrecognised (shown : String) (quote : Quote) :
      Refuses (.unrecognised shown) quote (.unknownFixedSize shown)

/-- What is as great as zero is zero. -/
theorem Decimal.compare?_zero {a : Decimal} : a.compare? zero = some .eq ↔
    a.isZero = true := by
  rcases a with ⟨s, c, e⟩ | s | ⟨s, b, p⟩
  · rw [compare?_quantity, quantity_zero]
    show some (compare (spelled s c e) 0) = some .eq ↔ (c == 0) = true
    rw [Option.some.injEq, compare_eq_iff_eq, spelled_eq_zero, beq_iff_eq]
  · cases s <;> decide
  · exact ⟨nofun, nofun⟩

namespace FixedSize

variable {size : FixedSize} {quote : Quote} {e : Fault}

/-- An amount is refused at a price for a fault of the input exactly where the
price is negative or zero. -/
theorem refuses_quote_iff {amount price : Decimal} :
    Refuses (.quote amount) (.fixed price) e ↔
      sizeAtPrice amount price = .error e ∧ e.isInput = true := by
  rw [sizeAtPrice_eq, Decimal.lt]
  constructor
  · rintro (_ | _ | _ | ⟨_, below, some⟩ | ⟨_, none⟩)
    · rcases le_iff_compare?.mp below with order | order
      · simp only [order]
        exact ⟨rfl, rfl⟩
      · rw [compare?_zero, some] at order
        cases order
    · simp only [compare?_zero.mpr none, none]
      exact ⟨rfl, rfl⟩
  · cases order : price.compare? zero with
    | none => rintro ⟨⟨⟩, ⟨⟩⟩
    | some o =>
      cases o with
      | lt =>
        rintro ⟨⟨⟩, -⟩
        refine .negative amount (le_iff_compare?.mpr (.inl order)) ?_
        rw [← Bool.not_eq_true, ← compare?_zero, order]
        intro same
        cases same
      | eq =>
        have none := compare?_zero.mp order
        simp only [none]
        rintro ⟨⟨⟩, -⟩
        exact .zero amount none
      | gt =>
        have some : price.isZero = false := by
          rw [← Bool.not_eq_true, ← compare?_zero, order]
          intro same
          cases same
        -- beyond the checks of the price there is only arithmetic
        simp only [some]
        rintro ⟨stopped, input⟩
        obtain ⟨signal, -, rfl⟩ := lift_eq_error.mp stopped
        cases input

/-- A quote is refused for a fault of the input exactly where it does not
fit. -/
theorem refuses_iff : size.Refuses quote e ↔
    size.multiplier quote = .error e ∧ e.isInput = true := by
  cases size <;> cases quote
  case quote.fixed amount price => exact refuses_quote_iff
  case free.standard | base.fixed => exact ⟨nofun, nofun⟩
  -- every other pair is a misfit, whatever its figures
  all_goals
    constructor
    · rintro ⟨⟩
      exact ⟨rfl, rfl⟩
    · rintro ⟨⟨⟩, -⟩
      constructor

end FixedSize

/-! ### Confirmations -/

/-- The fault of a side that has nothing to confirm: there is no quote, or one
that the request refuses. -/
inductive Rfq.Unconfirmable (rfq : Rfq) (response : Response)
    (side : QuoteSide) : Fault → Prop
  | missing (none : response.quote? side = none) :
      Unconfirmable rfq response side .quoteMissing
  | misfit {quote : Quote} {e : Fault} (quoted : response.quote? side = some quote)
    (refused : rfq.fixedSize.Refuses quote e) : Unconfirmable rfq response side e

/-- The multiplier of a quote has a fault of the input exactly where there is
nothing to confirm. -/
theorem Rfq.unconfirmable_iff {rfq : Rfq} {response : Response}
    {side : QuoteSide} {e : Fault} :
    rfq.Unconfirmable response side e ↔
      rfq.confirmedMultiplier response side none = .error e ∧ e.isInput = true := by
  rw [confirmedMultiplier]
  cases quoted : response.quote? side with
  | none =>
    constructor
    · rintro (_ | ⟨present, -⟩)
      · exact ⟨rfl, rfl⟩
      · rw [quoted] at present
        cases present
    · rintro ⟨⟨⟩, -⟩
      exact .missing quoted
  | some quote =>
    constructor
    · rintro (absent | ⟨present, refused⟩)
      · rw [quoted] at absent
        cases absent
      · rw [quoted] at present
        obtain rfl := Option.some.inj present
        exact FixedSize.refuses_iff.mp refused
    · intro h
      exact .misfit quoted (FixedSize.refuses_iff.mpr h)

namespace Estimator

/-- **Confirmations.**  Without a multiplier of the taker's own, an amount is
returned for a confirmation only where the answer holds a quote on that side
and the request takes a multiplier from it, refusing it for nothing; a side
without a quote, or with one that the request refuses, ends with that fault of
the input.  With a multiplier of the taker's own the answer is of no effect:
the outcome is the same for all answers, those without a quote included. -/
theorem forConfirmation_quoted (live : LiveModel) (estimator : Estimator)
    (rfq : Rfq) (side : QuoteSide) :
    (∀ response confirmed,
      estimator.forConfirmation live rfq response side none = .ok confirmed →
      ∃ quote m, response.quote? side = some quote ∧
        rfq.fixedSize.multiplier quote = .ok m ∧
        ∀ e, ¬ rfq.fixedSize.Refuses quote e) ∧
    (∀ response e, rfq.Unconfirmable response side e →
      estimator.forConfirmation live rfq response side none = .error e ∧
      e.isInput = true) ∧
    ∀ own response response',
      estimator.forConfirmation live rfq response side (some own) =
        estimator.forConfirmation live rfq response' side (some own) := by
  refine ⟨?_, ?_, fun own response response' => rfl⟩
  · intro response confirmed h
    obtain ⟨m, s, multiplier, -, -⟩ := forConfirmation_eq_ok.mp h
    rw [Rfq.confirmedMultiplier] at multiplier
    cases quoted : response.quote? side with
    | none =>
      rw [quoted] at multiplier
      cases multiplier
    | some quote =>
      rw [quoted] at multiplier
      refine ⟨quote, m, rfl, multiplier, ?_⟩
      intro e refused
      obtain ⟨stopped, -⟩ := FixedSize.refuses_iff.mp refused
      cases stopped.symm.trans multiplier
  · intro response e unconfirmable
    obtain ⟨stopped, input⟩ := Rfq.unconfirmable_iff.mp unconfirmable
    exact ⟨bind_eq_error.mpr (.inl stopped), input⟩

end Estimator

/-- The bid of the small answer is confirmed, and nothing of an empty one. -/
theorem sample_confirmable :
    (∃ confirmed, Sample.estimator.forConfirmation Sample.live Sample.request
      Sample.response .bid none =
        .ok confirmed ∧
      ∃ quote m, Sample.response.quote? .bid = some quote ∧
        Sample.request.fixedSize.multiplier quote = .ok m) ∧
    Sample.estimator.forConfirmation Sample.live Sample.request
      ⟨none, none⟩ .ask none = .error .quoteMissing := by
  have run : Sample.estimator.forConfirmation Sample.live Sample.request
      Sample.response .bid none = .ok (.finite false 5000000 (-6)) := by
        decide +kernel
  obtain ⟨quote, m, quoted, multiplier, -⟩ :=
    (Estimator.forConfirmation_quoted Sample.live Sample.estimator
      Sample.request .bid).1 _ _ run
  have missing : Sample.request.Unconfirmable ⟨none, none⟩ .ask .quoteMissing :=
    .missing rfl
  exact ⟨⟨_, run, quote, m, quoted, multiplier⟩,
    ((Estimator.forConfirmation_quoted Sample.live Sample.estimator
      Sample.request .ask).2.1 _ _ missing).1⟩

/-- With a multiplier of the taker's own, an amount is returned where there is
no quote to confirm, and where the request refuses the quote. -/
theorem sample_unquoted :
    Sample.request.Unconfirmable ⟨none, none⟩ .ask .quoteMissing ∧
    (∃ confirmed, Sample.estimator.forConfirmation Sample.live Sample.request
      ⟨none, none⟩ .ask (some .one) = .ok confirmed) ∧
    Sample.request.Unconfirmable
      ⟨none, some (.standard .one .one)⟩ .ask .sizeAlreadyFixed ∧
    ∃ confirmed, Sample.estimator.forConfirmation Sample.live Sample.request
      ⟨none, some (.standard .one .one)⟩ .ask (some .one) = .ok confirmed := by
  have run : Sample.estimator.forConfirmation Sample.live Sample.request
      ⟨none, none⟩ .ask (some .one) =
        .ok (.finite false 2420000000000000000000000000 (-26)) := by
        decide +kernel
  exact ⟨.missing rfl, ⟨_, run⟩, .misfit rfl (.base _ _ _), _, run⟩

end ScenarioMargin
