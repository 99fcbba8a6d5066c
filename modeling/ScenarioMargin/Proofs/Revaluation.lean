/-
ScenarioMargin/Proofs/Revaluation.lean

What the engine does in each scenario, and the table that shows it.  The table
is made by a loop of its own, over the base assets in another order: it groups
the positions again, selects the scenarios again and shocks the prices again.

To compare the two, the engine is run with a history.  `revalueAll` is the loop
over scenarios that also keeps, for each scenario, the market in which the
positions were valued again and the result; `assetHistory` and
`portfolioHistory` are the statistics made with that loop.  Without the history
they are the statistics, fault for fault (`portfolioHistory_forget`), so the
history tells what the engine did and not what another one would have done.

Main result: `Sheet.ofScenarios_history`, by which the rows of the table are
the revaluations of the history, base asset by base asset in ascending order.
-/
import ScenarioMargin.Proofs.Extremes
import ScenarioMargin.Proofs.Locality
import ScenarioMargin.Report.Sheet

namespace ScenarioMargin

open Decimal

/-! ### The engine with a history -/

/-- A scenario as it was evaluated: the market in which the positions were
valued again, and the result. -/
structure Revaluation where
  scenario : Scenario
  market : Market
  result : Decimal
  deriving DecidableEq, Repr

/-- The result of a change of the market to another one. -/
def resultIn (live : LiveModel) (shocked : Market) (now : Int)
    (valued : List (Position × Decimal)) : Except Fault Decimal :=
  valued.foldlM
    (fun sum entry => do sum.add (← entry.1.change live shocked now entry.2))
    .zero

/-- The loop over scenarios, with its history. -/
def revalueAll (live : LiveModel) (market : Market) (now : Int)
    (valued : List (Position × Decimal)) :
    List Scenario → Extremes → Except Fault (List Revaluation × Extremes)
  | [], e => .ok ([], e)
  | s :: rest, e => do
    let shocked ← market.shocked s
    let result ← resultIn live shocked now valued
    let e ← e.take result
    let (later, e) ← revalueAll live market now valued rest e
    return (⟨s, shocked, result⟩ :: later, e)

/-- The statistics of the positions in one base asset, with their history. -/
def assetHistory (live : LiveModel) (positions : List Position)
    (info : AssetInfo) (category : CategoryInfo) (period : Value) (now : Int) :
    Except Fault (List Revaluation × AssetStatistics) := do
  let market := info.market category
  let valued ← valuedAt live market now positions
  let scenarios ← category.variants period (withOption positions)
  let (done, extremes) ← revalueAll live market now valued scenarios Extremes.start
  let gross ← grossValue (valued.map Prod.snd)
  return (done, ⟨extremes.best, extremes.worst, gross, scenarios.length⟩)

/-- The statistics of one group of positions, with their history. -/
def groupHistory (live : LiveModel) (infos : Keyed Int AssetInfo)
    (categories : CategoryTable) (period : Value) (now : Int)
    (group : Int × List Position) :
    Except Fault (Int × List Revaluation × AssetStatistics) := do
  let some info := Keyed.get? group.1 infos | throw .missingKey
  let some category := Keyed.get? info.category categories
    | throw (.categoryMissing info.category)
  return (group.1, ← assetHistory live group.2 info category period now)

/-- The statistics of positions, with the history of each base asset. -/
def portfolioHistory (live : LiveModel) (positions : List Position)
    (infos : Keyed Int AssetInfo) (categories : CategoryTable)
    (config : CollateralConfig) (period : Value) (now : Int) :
    Except Fault (Keyed Int (List Revaluation) × PortfolioStatistics) := do
  let groups ← (positionsByAsset positions).mapM
    (groupHistory live infos categories period now)
  let portfolio ← Portfolio.ofStatistics (groups.map fun g => g.2.2) config
  return (groups.map fun g => (g.1, g.2.1),
    ⟨groups.map fun g => (g.1, g.2.2), portfolio⟩)

section History

variable {live : LiveModel} {positions : List Position}
  {infos : Keyed Int AssetInfo} {categories : CategoryTable}
variable {config : CollateralConfig} {period : Value} {now : Int}
variable {market : Market} {valued : List (Position × Decimal)}
  {info : AssetInfo} {category : CategoryInfo}

/-- Without its history the loop is the engine's. -/
theorem revalueAll_forget (scenarios : List Scenario) (e : Extremes) :
    Prod.snd <$> revalueAll live market now valued scenarios e =
      Extremes.takeAll (scenarioResult live market now valued) scenarios e := by
  induction scenarios generalizing e with
  | nil => rfl
  | cons s rest ih =>
    have step :
        Extremes.takeAll (scenarioResult live market now valued) (s :: rest) e =
        (do e.take (← scenarioResult live market now valued s) :
          Except Fault Extremes) >>=
          Extremes.takeAll (scenarioResult live market now valued) rest :=
            List.foldlM_cons ..
    rw [step, revalueAll]
    simp only [map_bind, scenarioResult, bind_assoc, resultIn]
    refine bind_congr fun shocked => bind_congr fun result =>
      bind_congr fun e' => ?_
    rw [← ih, map_eq_pure_bind Prod.snd]
    rfl

theorem assetHistory_forget :
    Prod.snd <$> assetHistory live positions info category period now =
      assetStatistics live positions info category period now := by
  simp only [assetHistory, assetStatistics, map_bind]
  refine bind_congr fun valued => bind_congr fun scenarios => ?_
  have loop : Prod.snd <$> revalueAll live
      (info.market category) now valued scenarios Extremes.start =
        scenarios.foldlM (fun e s => do
          e.take (← scenarioResult live (info.market category) now valued s))
          Extremes.start := revalueAll_forget scenarios Extremes.start
  rw [← loop, bind_map_left]
  rfl

theorem groupHistory_forget (group : Int × List Position) :
    (fun g => (g.1, g.2.2)) <$>
      groupHistory live infos categories period now group =
        groupStatistics live infos categories period now group := by
  rw [groupHistory, groupStatistics]
  cases Keyed.get? group.1 infos with
  | none => rfl
  | some info =>
    dsimp only
    cases Keyed.get? info.category categories with
    | none => rfl
    | some category =>
      simp only [map_bind]
      rw [← assetHistory_forget, bind_map_left]
      rfl

/-- Without their histories the statistics are the engine's, and so are the
faults. -/
theorem portfolioHistory_forget :
    Prod.snd <$>
      portfolioHistory live positions infos categories config period now =
        portfolioStatistics live positions infos categories config
          period now := by
  have groups : (positionsByAsset positions).mapM
      (groupStatistics live infos categories period now) =
        (List.map fun g => (g.1, g.2.2)) <$> (positionsByAsset positions).mapM
          (groupHistory live infos categories period now) := by
    rw [map_mapM]
    simp only [groupHistory_forget]
  simp only [portfolioHistory, portfolioStatistics, map_bind]
  rw [groups, bind_map_left]
  simp only [List.map_map]
  rfl

/-! ### What a history tells -/

/-- The revaluations of the positions in one base asset: one for each variant
of the scenario, in order, each in the market that the scenario makes of the
current one and with the result that the positions have there. -/
def AreRevaluations (live : LiveModel) (positions : List Position)
    (info : AssetInfo) (category : CategoryInfo) (period : Value) (now : Int)
    (done : List Revaluation) : Prop :=
  category.variants period (withOption positions) =
    .ok (done.map Revaluation.scenario) ∧
  ∃ valued, valuedAt live (info.market category) now positions = .ok valued ∧
    ∀ r ∈ done, (info.market category).shocked r.scenario = .ok r.market ∧
      resultIn live r.market now valued = .ok r.result

variable {done : List Revaluation} {e e' : Extremes} {a : AssetStatistics}

/-- The loop evaluates each scenario once, in order. -/
theorem revalueAll_eq_ok {scenarios : List Scenario}
    (h : revalueAll live market now valued scenarios e = .ok (done, e')) :
    done.map Revaluation.scenario = scenarios ∧
      ∀ r ∈ done, market.shocked r.scenario = .ok r.market ∧
        resultIn live r.market now valued = .ok r.result := by
  induction scenarios generalizing e done with
  | nil =>
    obtain ⟨rfl, rfl⟩ := Prod.mk.inj (Except.ok.inj h)
    exact ⟨rfl, by simp⟩
  | cons s rest ih =>
    simp only [revalueAll, bind_eq_ok, lift_eq_ok, pure_eq_ok] at h
    obtain ⟨shocked, hs, result, hr, e'', -, ⟨later, last⟩, run, same⟩ := h
    obtain ⟨rfl, rfl⟩ := Prod.mk.inj same
    obtain ⟨order, each⟩ := ih run
    refine ⟨by rw [List.map_cons, order], ?_⟩
    rw [List.forall_mem_cons]
    exact ⟨⟨hs, hr⟩, each⟩

theorem assetHistory_eq_ok
    (h : assetHistory live positions info category period now = .ok (done, a)) :
    AreRevaluations live positions info category period now done ∧
      done.length = a.scenarioCount := by
  simp only [assetHistory, bind_eq_ok, lift_eq_ok, pure_eq_ok] at h
  obtain ⟨valued, hv, scenarios, variants, ⟨_, extremes⟩, run, gross, -, same⟩ := h
  obtain ⟨rfl, rfl⟩ := Prod.mk.inj same
  obtain ⟨order, each⟩ := revalueAll_eq_ok run
  refine ⟨⟨by rw [order, variants], valued, hv, each⟩, ?_⟩
  rw [← order, List.length_map]

theorem groupHistory_eq_ok {group : Int × List Position}
    {g : Int × List Revaluation × AssetStatistics}
    (h : groupHistory live infos categories period now group = .ok g) :
    g.1 = group.1 ∧ ∃ info category, Keyed.get? group.1 infos = some info ∧
      Keyed.get? info.category categories = some category ∧
      AreRevaluations live group.2 info category period now g.2.1 ∧
      g.2.1.length = g.2.2.scenarioCount := by
  rw [groupHistory] at h
  cases found : Keyed.get? group.1 infos with
  | none =>
    rw [found] at h
    cases h
  | some info =>
    simp only [found] at h
    cases graded : Keyed.get? info.category categories with
    | none =>
      rw [graded] at h
      cases h
    | some category =>
      simp only [graded, bind_eq_ok, pure_eq_ok] at h
      obtain ⟨⟨done, a⟩, run, rfl⟩ := h
      exact ⟨rfl, info, category, rfl, graded, assetHistory_eq_ok run⟩

variable {history : Keyed Int (List Revaluation)} {s : PortfolioStatistics}

/-- The history of a portfolio is made up of those of its groups. -/
theorem portfolioHistory_eq_ok
    (h : portfolioHistory live positions infos categories config period now =
      .ok (history, s)) :
    ∃ groups, List.Forall₂ (fun group g =>
      groupHistory live infos categories period now group = .ok g)
        (positionsByAsset positions) groups ∧
      history = groups.map (fun g => (g.1, g.2.1)) ∧
      s.assets = groups.map (fun g => (g.1, g.2.2)) := by
  simp only [portfolioHistory, bind_eq_ok, lift_eq_ok, pure_eq_ok, mapM_eq_ok] at h
  obtain ⟨groups, each, portfolio, -, same⟩ := h
  obtain ⟨rfl, rfl⟩ := Prod.mk.inj same
  exact ⟨groups, each, rfl, rfl⟩

/-- The history stands under the keys of the statistics. -/
theorem keys_of_history
    (h : portfolioHistory live positions infos categories config period now =
      .ok (history, s)) : Keyed.keys history = Keyed.keys s.assets := by
  obtain ⟨groups, -, rfl, assets⟩ := portfolioHistory_eq_ok h
  rw [assets, Keyed.keys, Keyed.keys, List.map_map, List.map_map]
  rfl

/-- The history of a base asset tells the revaluations of its own positions, as
many as its statistics count. -/
theorem areRevaluations_of_history
    (h : portfolioHistory live positions infos categories config period now =
      .ok (history, s)) :
    List.Forall₂
      (fun entry a => entry.1 = a.1 ∧ entry.2.length = a.2.scenarioCount ∧
      ∃ info category, Keyed.get? entry.1 infos = some info ∧
        Keyed.get? info.category categories = some category ∧
        AreRevaluations live (positions.filter fun p => p.baseAsset = entry.1)
          info category period now entry.2)
      history s.assets := by
  obtain ⟨groups, each, rfl, assets⟩ := portfolioHistory_eq_ok h
  rw [assets, List.forall₂_map_left_iff, List.forall₂_map_right_iff,
    List.forall₂_same]
  intro g hg
  obtain ⟨group, member, history⟩ := exists_of_forall₂ each hg
  rw [positionsByAsset_eq] at member
  obtain ⟨i, -, rfl⟩ := List.mem_map.mp member
  obtain ⟨key, info, category, found, graded, done, count⟩ :=
    groupHistory_eq_ok history
  rw [key]
  exact ⟨rfl, count, info, category, found, graded, done⟩

/-- Where the engine returns, it has a history. -/
theorem exists_history
    (h : portfolioStatistics live positions infos categories config period now =
      .ok s) :
    ∃ history,
      portfolioHistory live positions infos categories config period now =
        .ok (history, s) := by
  obtain ⟨⟨history, _⟩, run, rfl⟩ := map_eq_ok.mp (portfolioHistory_forget.trans h)
  exact ⟨history, run⟩

end History

/-! ### The table -/

namespace Sheet

variable {β γ : Type}

theorem byIndex_perm (table : Keyed Int β) : (byIndex table).Perm table :=
  List.mergeSort_perm _ _

/-- Keys that stand only once ascend. -/
theorem byIndex_ascending {table : Keyed Int β} (once : (Keyed.keys table).Nodup) :
    (byIndex table).Pairwise fun a b => a.1 < b.1 := by
  have sorted : (byIndex table).Pairwise fun a b => a.1 ≤ b.1 :=
    List.pairwise_mergeSort' (fun a b : Int × β => a.1 ≤ b.1) table
  have distinct : (byIndex table).Pairwise fun a b => a.1 ≠ b.1 :=
    List.pairwise_map.mp (((byIndex_perm table).map Prod.fst).nodup_iff.mpr once)
  exact sorted.imp₂ (fun a b le ne => lt_of_le_of_ne le ne) distinct

/-- Tables with the same keys are put into the same order. -/
theorem byIndex_forall₂ {R : Int × β → Int × γ → Prop} {as : Keyed Int β}
    {bs : Keyed Int γ}
    (h : List.Forall₂ R as bs) (keys : ∀ a b, R a b → a.1 = b.1) :
    List.Forall₂ R (byIndex as) (byIndex bs) := by
  obtain ⟨length, related⟩ := List.forall₂_iff_zip.mp h
  have left : ((as.zip bs).mergeSort fun z z' => z.1.1 ≤ z'.1.1).map Prod.fst =
      byIndex as :=
    (List.map_mergeSort (f := Prod.fst) fun _ _ _ _ => rfl).trans
      (congrArg byIndex (List.map_fst_zip length.le))
  have right : ((as.zip bs).mergeSort fun z z' => z.1.1 ≤ z'.1.1).map Prod.snd =
      byIndex bs := by
    refine (List.map_mergeSort fun z hz z' hz' => ?_).trans
      (congrArg byIndex (List.map_snd_zip length.ge))
    rw [keys _ _ (related hz), keys _ _ (related hz')]
  rw [← left, ← right, List.forall₂_map_left_iff, List.forall₂_map_right_iff,
    List.forall₂_same]
  intro z hz
  exact related (List.mem_mergeSort.mp hz)

variable {live : LiveModel} {positions : List Position}
  {infos : Keyed Int AssetInfo} {categories : CategoryTable}
variable {config : CollateralConfig} {period : Value} {now : Int}

/-- The row of a revaluation. -/
def revaluationRow (index : Int) (bucket : Nat) (r : Revaluation) :
    Except Fault (List Cell) := do
  let price ← r.scenario.priceChange.percentText
  let volatility ← r.scenario.volatilityChange.percentText
  return [.number index, .number bucket, .text price, .text volatility,
    amount r.market.price]

/-- The price that the table shocks is the one in which positions were
valued. -/
theorem scenarioRow_eq {info : AssetInfo} {category : CategoryInfo}
    {r : Revaluation}
    (h : (info.market category).shocked r.scenario = .ok r.market) (index : Int)
    (bucket : Nat) :
    scenarioRow index bucket info r.scenario = revaluationRow index bucket r := by
  obtain ⟨price, changed, h⟩ := bind_eq_ok.mp h
  obtain ⟨volatility, -, h⟩ := bind_eq_ok.mp h
  have shown : r.market.price = price := by rw [← pure_eq_ok.mp h]
  replace changed : info.price.changed r.scenario.priceChange = .ok price := changed
  rw [scenarioRow, revaluationRow, shown]
  simp only [changed]
  rfl

/-- The rows of a base asset are those of its history. -/
theorem scenarioRows_eq {group : Int × List Position}
    {g : Int × List Revaluation × AssetStatistics}
    (h : groupHistory live infos categories period now group = .ok g)
    (bucket : Nat) :
    scenarioRows infos categories period bucket group =
      g.2.1.mapM (revaluationRow g.1 bucket) := by
  obtain ⟨key, info, category, found, graded, ⟨variants, valued, -, each⟩, -⟩ :=
    groupHistory_eq_ok h
  rw [scenarioRows]
  simp only [found, graded, variants]
  rw [key]
  show (g.2.1.map Revaluation.scenario).mapM _ = _
  rw [List.mapM_map]
  exact mapM_congr fun r hr => scenarioRow_eq (each r hr).1 group.1 bucket

/-- Where the engine returns, the table is that of its history, and it ends
with a fault where that one does. -/
theorem ofScenarios_eq {history : Keyed Int (List Revaluation)}
    {s : PortfolioStatistics}
    (h : portfolioHistory live positions infos categories config period now =
      .ok (history, s)) :
    ofScenarios positions infos categories period = do
      let bucket ← bucket period
      let blocks ← (byIndex history).mapM fun entry =>
        entry.2.mapM (revaluationRow entry.1 bucket)
      return ⟨["base_asset", "bucket", "price_change", "volatility_change",
        "shocked_price"], blocks.flatten⟩ := by
  obtain ⟨groups, each, rfl, -⟩ := portfolioHistory_eq_ok h
  have entries :
      List.Forall₂ (fun group entry => group.1 = entry.1 ∧ ∀ bucket : Nat,
      scenarioRows infos categories period bucket group =
        entry.2.mapM (revaluationRow entry.1 bucket))
      (positionsByAsset positions) (groups.map fun g => (g.1, g.2.1)) := by
    rw [List.forall₂_map_right_iff]
    refine each.imp fun group g run =>
      ⟨?_, fun bucket => scenarioRows_eq run bucket⟩
    exact (groupHistory_eq_ok run).1.symm
  have sorted := byIndex_forall₂ entries fun _ _ h => h.1
  rw [ofScenarios]
  refine bind_congr fun bucket => ?_
  rw [mapM_eq_of_forall₂ sorted fun _ _ h => h.2 bucket]

/-- **Scenarios as evaluated.**  Where the engine returns statistics, it has a
history; and where a table of scenarios is returned besides,

* the history holds the base assets of the statistics, each with as many
  revaluations as its statistics count, and these are those of its own
  positions, under the tables' figures for it;
* the rows are those of the base assets in ascending order of their indices,
  one block after the other, and a block has one row for each revaluation, in
  order: the index, the bucket of the settlement period, the two changes of the
  scenario, and the price in which the positions were valued again. -/
theorem ofScenarios_history {s : PortfolioStatistics} {t : Table}
    (evaluated : portfolioStatistics live positions infos categories config
      period now = .ok s)
    (shown : ofScenarios positions infos categories period = .ok t) :
    ∃ history b blocks,
      portfolioHistory live positions infos categories config period now =
        .ok (history, s) ∧
      List.Forall₂
        (fun entry a => entry.1 = a.1 ∧ entry.2.length = a.2.scenarioCount ∧
        ∃ info category, Keyed.get? entry.1 infos = some info ∧
          Keyed.get? info.category categories = some category ∧
          AreRevaluations live (positions.filter fun p => p.baseAsset = entry.1)
            info category period now entry.2)
        history s.assets ∧
      bucket period = .ok b ∧ t.rows = blocks.flatten ∧
      (byIndex history).Perm history ∧
      (byIndex history).Pairwise (fun entry later => entry.1 < later.1) ∧
      List.Forall₂ (fun entry block => List.Forall₂
        (fun r row => revaluationRow entry.1 b r = .ok row) entry.2 block)
        (byIndex history) blocks := by
  obtain ⟨history, run⟩ := exists_history evaluated
  rw [ofScenarios_eq run] at shown
  obtain ⟨b, bucketed, shown⟩ := bind_eq_ok.mp shown
  obtain ⟨blocks, rows, shown⟩ := bind_eq_ok.mp shown
  obtain rfl := pure_eq_ok.mp shown
  have once : (Keyed.keys history).Nodup := by
    rw [keys_of_history run, keys_eq evaluated]
    exact eraseDups_nodup _
  refine ⟨history, b, blocks, run, areRevaluations_of_history run, bucketed,
    rfl, byIndex_perm history, byIndex_ascending once, ?_⟩
  exact (mapM_eq_ok.mp rows).imp fun _ _ block => mapM_eq_ok.mp block

end Sheet

/-! ### A small table -/

namespace Sample

/-- The small book, with the other base asset first. -/
def turnedBook : List Position :=
  book.rotate 1

def turnedStatistics : PortfolioStatistics where
  assets := statistics.assets.reverse
  portfolio := statistics.portfolio

/-- Four rows for the base asset with an option, and two for the other one,
which the engine evaluates first. -/
def scenarioTable : Table where
  headings :=
    ["base_asset", "bucket", "price_change", "volatility_change",
      "shocked_price"]
  rows := [
    [.number 0, .number 1, .text "+10.00%", .text "+50.00%", .text "110.0000"],
    [.number 0, .number 1, .text "+10.00%", .text "-50.00%", .text "110.0000"],
    [.number 0, .number 1, .text "-10.00%", .text "+50.00%", .text "90.0000"],
    [.number 0, .number 1, .text "-10.00%", .text "-50.00%", .text "90.0000"],
    [.number 1, .number 1, .text "+10.00%", .text "+0.00%", .text "2.7500"],
    [.number 1, .number 1, .text "-10.00%", .text "+0.00%", .text "2.2500"]]

end Sample

/-- The small table shows the history of the turned book. -/
theorem sample_history :
    portfolioStatistics Sample.live Sample.turnedBook Sample.infos
      Sample.categories Sample.config (.whole 3600) 0 =
        .ok Sample.turnedStatistics ∧
      Sheet.ofScenarios Sample.turnedBook Sample.infos Sample.categories
        (.whole 3600) = .ok Sample.scenarioTable ∧
      ∃ history b blocks, portfolioHistory Sample.live Sample.turnedBook
        Sample.infos Sample.categories Sample.config
          (.whole 3600) 0 = .ok (history, Sample.turnedStatistics) ∧
        Sample.scenarioTable.rows = blocks.flatten ∧
        List.Forall₂ (fun entry block =>
          List.Forall₂ (fun r row => Sheet.revaluationRow entry.1 b r = .ok row)
            entry.2 block)
          (Sheet.byIndex history) blocks := by
  have evaluated : portfolioStatistics Sample.live Sample.turnedBook
      Sample.infos Sample.categories Sample.config (.whole 3600) 0 =
        .ok Sample.turnedStatistics := by decide +kernel
  have shown : Sheet.ofScenarios Sample.turnedBook Sample.infos
      Sample.categories (.whole 3600) = .ok Sample.scenarioTable := by
    have sorted : Sheet.byIndex (positionsByAsset Sample.turnedBook) =
        (positionsByAsset Sample.turnedBook).reverse := by
      cbv
    rw [Sheet.ofScenarios, sorted]
    decide +kernel
  obtain ⟨history, b, blocks, run, -, -, rows, -, -, each⟩ :=
    Sheet.ofScenarios_history evaluated shown
  exact ⟨evaluated, shown, history, b, blocks, run, rows, each⟩

end ScenarioMargin
