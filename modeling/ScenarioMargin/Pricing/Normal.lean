/-
ScenarioMargin/Pricing/Normal.lean

The cumulative normal distribution.  Near zero it comes from the error
function, in the tails from the complementary one; both are quotients of
polynomials on each of their ranges.
-/
namespace ScenarioMargin.Normal

/-- A polynomial at `x`, the highest coefficient first. -/
def polynomial (coefficients : List Float) (x : Float) : Float :=
  match coefficients with
  | [] => 0
  | c :: rest => rest.foldl (fun sum d => sum * x + d) c

/-- A polynomial at `x` with the highest coefficient one, the others
following. -/
def monic (coefficients : List Float) (x : Float) : Float :=
  polynomial (1 :: coefficients) x

/-! ### The error function below one -/

def errorNumerator : List Float := [
  9.60497373987051638749E0, 9.00260197203842689217E1, 2.23200534594684319226E3,
  7.00332514112805075473E3, 5.55923013010394962768E4]

def errorDenominator : List Float := [
  3.35617141647503099647E1, 5.21357949780152679795E2, 4.59432382970980127987E3,
  2.26290000613890934246E4, 4.92673942608635921086E4]

/-- The error function for arguments of magnitude below one. -/
def smallError (x : Float) : Float :=
  x * polynomial errorNumerator (x * x) / monic errorDenominator (x * x)

/-! ### The complementary error function from one on -/

def middleNumerator : List Float := [
  2.46196981473530512524E-10, 5.64189564831068821977E-1,
  7.46321056442269912687E0, 4.86371970985681366614E1, 1.96520832956077098242E2,
  5.26445194995477358631E2, 9.34528527171957607540E2, 1.02755188689515710272E3,
  5.57535335369399327526E2]

def middleDenominator : List Float := [
  1.32281951154744992508E1, 8.67072140885989742329E1, 3.54937778887819891062E2,
  9.75708501743205489753E2, 1.82390916687909736289E3, 2.24633760818710981792E3,
  1.65666309194161350182E3, 5.57535340817727675546E2]

def farNumerator : List Float := [
  5.64189583547755073984E-1, 1.27536670759978104416E0, 5.01905042251180477414E0,
  6.16021097993053585195E0, 7.40974269950448939160E0, 2.97886665372100240670E0]

def farDenominator : List Float := [
  2.26052863220117276590E0, 9.39603524938001434673E0, 1.20489539808096656605E1,
  1.70814450747565897222E1, 9.60896809063285878198E0, 3.36907645100081516050E0]

/-- Beyond this square of an argument the complementary error function counts
as zero. -/
def farthestSquare : Float := 7.09782712893383996843E2

/-- The complementary error function for arguments that are not negative. -/
def complementary (x : Float) : Float :=
  if x < 1 then 1 - smallError x
  else if farthestSquare < x * x then 0
  else
    let decay := Float.exp (-(x * x))
    if x < 8 then decay * polynomial middleNumerator x / monic middleDenominator x
    else decay * polynomial farNumerator x / monic farDenominator x

/-! ### The distribution -/

/-- The square root of one half. -/
def rootHalf : Float := 0.70710678118654752440

/-- The probability that a standard normal variable is at most `a`. -/
def cumulative (a : Float) : Float :=
  let x := a * rootHalf
  let z := x.abs
  if x.isNaN then x
  else if z < rootHalf then 0.5 + 0.5 * smallError x
  else
    let tail := 0.5 * complementary z
    if 0 < x then 1 - tail else tail

end ScenarioMargin.Normal
