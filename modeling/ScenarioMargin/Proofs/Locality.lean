/-
ScenarioMargin/Proofs/Locality.lean

Each base asset by itself.  A portfolio may mix the positions of any number of
base assets in any way; the statistics of a base asset are those of its own
positions, in their order, and nothing that the others hold enters them.

The engine makes the groups position by position.  What comes out is known in
one line (`Keyed.groupBy_eq`), so that which positions are valued together, and
in what order, is read off the list of positions.  From there the law is about
one loop over groups, which ends with the fault of the first group that has
one.  Two lists of positions that differ in how base assets are interleaved
make the same groups, so they have the same results or the same fault.

Main result: `portfolioStatistics_local`.
-/
import ScenarioMargin.Collateral
import ScenarioMargin.Proofs.Grouping
import ScenarioMargin.Proofs.Returns

namespace ScenarioMargin

variable {live : LiveModel} {positions : List Position}
  {infos : Keyed Int AssetInfo} {categories : CategoryTable}
variable {config : CollateralConfig} {period : Value} {now : Int}
  {s : PortfolioStatistics}

/-! ### Groups -/

/-- The groups that the engine values: the base assets as they are first seen,
each with its own positions. -/
theorem positionsByAsset_eq (positions : List Position) :
    positionsByAsset positions =
      (positions.map Position.baseAsset).eraseDups.map fun i =>
      (i, positions.filter fun p => p.baseAsset = i) :=
  Keyed.groupBy_eq Position.baseAsset positions

/-- The statistics stand under the keys of the groups. -/
theorem keys_eq
    (h : portfolioStatistics live positions infos categories config period now =
      .ok s) :
    Keyed.keys s.assets = (positions.map Position.baseAsset).eraseDups := by
  obtain ⟨groups, -⟩ := portfolioStatistics_eq_ok.mp h
  rw [positionsByAsset_eq, List.forall₂_map_left_iff] at groups
  have keys : List.Forall₂ (fun i k => k = i)
      (positions.map Position.baseAsset).eraseDups (Keyed.keys s.assets) := by
    rw [Keyed.keys, List.forall₂_map_right_iff]
    refine groups.imp ?_
    intro i a statistics
    obtain ⟨_, _, -, -, -, key⟩ := groupStatistics_eq_ok.mp statistics
    exact key
  exact (List.forall₂_eq_eq_eq.le _ _ (keys.imp fun _ _ same => same.symm)).symm

/-! ### Statistics of one base asset -/

theorem withOption_filter (positions : List Position) (i : Int) :
    withOption (positions.filter fun p => p.baseAsset = i) ↔
      ∃ p ∈ positions, p.baseAsset = i ∧ p.instrument.isOption := by
  simp [withOption]

/-- The statistics of a base asset come from its own positions. -/
theorem assetStatistics_of_mem
    (h : portfolioStatistics live positions infos categories config period now =
      .ok s)
    {i : Int} {t : AssetStatistics} (mem : (i, t) ∈ s.assets) :
    ∃ info category, Keyed.get? i infos = some info ∧
      Keyed.get? info.category categories = some category ∧
      assetStatistics live (positions.filter fun p => p.baseAsset = i) info
        category period now = .ok t := by
  obtain ⟨groups, -⟩ := portfolioStatistics_eq_ok.mp h
  rw [positionsByAsset_eq, List.forall₂_map_left_iff] at groups
  obtain ⟨j, -, statistics⟩ := exists_of_forall₂ groups mem
  obtain ⟨info, category, found, graded, statistics, key⟩ :=
    groupStatistics_eq_ok.mp statistics
  obtain rfl : i = j := key
  exact ⟨info, category, found, graded, statistics⟩

theorem scenarioCount_eq {info : AssetInfo} {category : CategoryInfo}
    {t : AssetStatistics}
    (h : assetStatistics live positions info category period now = .ok t) :
    t.scenarioCount = if withOption positions then 4 else 2 := by
  obtain ⟨valued, scenarios, extremes, -, variants, -, -, -, -, count⟩ :=
    assetStatistics_eq_ok.mp h
  rw [count, variants_length variants]

/-! ### The whole portfolio -/

/-- **Locality.**  Where the statistics of positions return,

* they stand under the base assets of the positions, each once, in the order in
  which they are first seen;
* the positions of these base assets, taken together, are all positions, none
  lost and none repeated;
* the statistics of each base asset are those of its own positions in their
  order, stressed by four scenarios when one of these is an option and by two
  otherwise.

Positions that differ in how base assets are interleaved have the same
statistics and require the same in each case, or end with the same fault. -/
theorem portfolioStatistics_local (live : LiveModel) (positions : List Position)
    (infos : Keyed Int AssetInfo) (categories : CategoryTable)
    (config : CollateralConfig) (period : Value) (now : Int) :
    (∀ s,
      portfolioStatistics live positions infos categories config period now =
        .ok s →
      ((Keyed.keys s.assets).Nodup ∧
        (∀ i, i ∈ Keyed.keys s.assets ↔ ∃ p ∈ positions, p.baseAsset = i) ∧
        (Keyed.keys s.assets).Pairwise fun i j =>
          (positions.map Position.baseAsset).idxOf i <
            (positions.map Position.baseAsset).idxOf j) ∧
      ((Keyed.keys s.assets).flatMap fun i => positions.filter fun p =>
        p.baseAsset = i).Perm positions ∧
      ∀ i t, (i, t) ∈ s.assets →
        (∃ info category, Keyed.get? i infos = some info ∧
          Keyed.get? info.category categories = some category ∧
          assetStatistics live (positions.filter fun p => p.baseAsset = i) info
            category period now = .ok t) ∧
        t.scenarioCount = if ∃ p ∈ positions, p.baseAsset = i ∧
        p.instrument.isOption then 4 else 2) ∧
    ∀ positions', (positions'.map Position.baseAsset).eraseDups =
      (positions.map Position.baseAsset).eraseDups →
      (∀ i, (positions'.filter fun p => p.baseAsset = i) =
        positions.filter fun p => p.baseAsset = i) →
      portfolioStatistics live positions' infos categories config period now =
        portfolioStatistics live positions infos categories config period now ∧
      ∀ c : Case,
        (portfolioStatistics live positions' infos categories config period
          now >>= fun s =>
          liftM (requiredCollateral s.portfolio c config)) =
        portfolioStatistics live positions infos categories config period
          now >>= fun s =>
          liftM (requiredCollateral s.portfolio c config) := by
  constructor
  · intro s h
    have covered : ∀ p ∈ positions,
        p.baseAsset ∈ (positions.map Position.baseAsset).eraseDups :=
      fun p hp => List.mem_eraseDups.mpr (List.mem_map_of_mem hp)
    rw [keys_eq h]
    refine ⟨⟨eraseDups_nodup _, ?_, eraseDups_pairwise _⟩,
      Keyed.flatMap_filter_perm Position.baseAsset (eraseDups_nodup _) covered, ?_⟩
    · intro i
      rw [List.mem_eraseDups, List.mem_map]
    · intro i t mem
      obtain ⟨info, category, found, graded, statistics⟩ :=
        assetStatistics_of_mem h mem
      refine ⟨⟨info, category, found, graded, statistics⟩, ?_⟩
      rw [scenarioCount_eq statistics]
      simp only [withOption_filter]
  · intro positions' order same
    have groups : positionsByAsset positions' = positionsByAsset positions :=
      Keyed.groupBy_congr order same
    have statistics :
        portfolioStatistics live positions' infos categories config period now =
        portfolioStatistics live positions infos categories config period now := by
      rw [portfolioStatistics, portfolioStatistics, groups]
    exact ⟨statistics, fun c => by rw [statistics]⟩

/-- The small book with the positions of each base asset side by side. -/
def Sample.sortedBook : List Position :=
  [⟨0, .finite false 2000 (-3), .long, .spot⟩,
   ⟨0, .finite false 3000 (-3), .short, .option .call .one (.ofInt 100) 10⟩,
   ⟨1, .finite false 15 (-1), .short, .perpFuture (.ofInt 10)⟩]

/-- The small book has the same statistics when it is sorted, and its option
counts for its own base asset alone. -/
theorem sample_local :
    portfolioStatistics Sample.live Sample.sortedBook Sample.infos
      Sample.categories Sample.config (.whole 3600) 0 =
        .ok Sample.statistics ∧
      Keyed.keys Sample.statistics.assets = [0, 1] ∧
      Sample.statistics.assets.map (fun a => a.2.scenarioCount) = [4, 2] ∧
      ∀ a ∈ Sample.statistics.assets, ∃ info category,
        Keyed.get? a.1 Sample.infos = some info ∧
        Keyed.get? info.category Sample.categories = some category ∧
        assetStatistics Sample.live (Sample.book.filter fun p =>
          p.baseAsset = a.1) info category (.whole 3600) 0 =
          .ok a.2 := by
  have run : portfolioStatistics Sample.live Sample.book Sample.infos
      Sample.categories Sample.config (.whole 3600) 0 =
        .ok Sample.statistics := by decide +kernel
  have law := portfolioStatistics_local Sample.live Sample.book Sample.infos
    Sample.categories Sample.config (.whole 3600) 0
  have order : (Sample.sortedBook.map Position.baseAsset).eraseDups =
      (Sample.book.map Position.baseAsset).eraseDups := by
    decide
  have same : ∀ i, (Sample.sortedBook.filter fun p => p.baseAsset = i) =
      Sample.book.filter fun p => p.baseAsset = i := by
    intro i
    by_cases first : (0 : Int) = i <;> by_cases second : (1 : Int) = i <;>
      simp [Sample.sortedBook, Sample.book, first, second]
    omega
  refine ⟨(law.2 _ order same).1.trans run, rfl, rfl, ?_⟩
  intro a ha
  exact ((law.1 _ run).2.2 a.1 a.2 ha).1

end ScenarioMargin
