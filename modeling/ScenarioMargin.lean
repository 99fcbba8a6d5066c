import ScenarioMargin.Main
import ScenarioMargin.Rfq
import ScenarioMargin.Proofs.Decimal.Grid
import ScenarioMargin.Proofs.Decimal.Quantity
import ScenarioMargin.Proofs.Decimal.Reading
import ScenarioMargin.Proofs.Decimal.Order
import ScenarioMargin.Proofs.Agree
import ScenarioMargin.Proofs.Decimal.Binary
import ScenarioMargin.Proofs.Decimal.Quotient
import ScenarioMargin.Proofs.Grouping
import ScenarioMargin.Proofs.Mirror
import ScenarioMargin.Proofs.Exact
import ScenarioMargin.Proofs.Fetching
import ScenarioMargin.Proofs.Monotone
import ScenarioMargin.Proofs.Returns
import ScenarioMargin.Proofs.TwoSided
import ScenarioMargin.Proofs.Stake
import ScenarioMargin.Proofs.Netting
import ScenarioMargin.Proofs.Scaling
import ScenarioMargin.Proofs.Lifecycle
import ScenarioMargin.Proofs.Reference
import ScenarioMargin.Proofs.Unrounded
import ScenarioMargin.Proofs.Locality
import ScenarioMargin.Proofs.Precedence
import ScenarioMargin.Proofs.Stops
import ScenarioMargin.Proofs.Floor
import ScenarioMargin.Proofs.Form
import ScenarioMargin.Proofs.ByValue
import ScenarioMargin.Proofs.Spelling
import ScenarioMargin.Proofs.Answer
import ScenarioMargin.Proofs.Inert
import ScenarioMargin.Proofs.Refusal
import ScenarioMargin.Proofs.Codec
import ScenarioMargin.Proofs.Grammar
import ScenarioMargin.Proofs.Extremes
import ScenarioMargin.Proofs.Dormant
import ScenarioMargin.Proofs.Linear
import ScenarioMargin.Proofs.Signs
import ScenarioMargin.Proofs.Sizing
import ScenarioMargin.Proofs.Confirmation
import ScenarioMargin.Proofs.Readability
import ScenarioMargin.Proofs.Revaluation
import ScenarioMargin.Proofs.Audit
import ScenarioMargin.Proofs.Hexadecimal
import ScenarioMargin.Proofs.Naming
import ScenarioMargin.Proofs.Repeated
import ScenarioMargin.Proofs.Characters
import ScenarioMargin.Proofs.Decimal.Written
import ScenarioMargin.Proofs.Truncation
import ScenarioMargin.Proofs.Lossless
