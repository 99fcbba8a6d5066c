/-
ScenarioMargin/Proofs/Inert.lean

What a document holds beyond what its legs need.  A document may list base
assets that no leg stands under, programs that no leg names and risk categories
that no base asset in use belongs to, in any number and at any place; it may
list the rest in another order.  None of this shows in its evaluation.

The sections of a document are lists of entries, each of them folded into a
table in which the last entry under a key counts.  Two things can be done to
such a list (`Widened`): an entry is put in, or two neighbours change places.
A fold does not notice as long as the entry leaves its state alone and the
neighbours commute (`Widened.foldl_eq`), and what stands under one key of a
table is a fold (`Keyed.get?_ofEntries`).  So a look-up under a key in use
finds the same before and after.  An evaluation asks the tables for nothing but
the keys in use (`Estimator.evaluate_congr`).

Of a base asset both the index and the address of its price are keys; two
entries of one category, under whatever spellings, have the same key, and then
it matters which comes last.

Main result: `Document.appraise_widened`.
-/
import ScenarioMargin.Proofs.Spelling
import ScenarioMargin.Proofs.Stops

namespace ScenarioMargin

variable {α β κ σ ε : Type}

/-! ### Lists with more in them -/

/-- A list and one that has more in it: items that are `loose` are put in
anywhere, and neighbours that are `apart` change places. -/
inductive Widened (loose : α → Prop) (apart : α → α → Prop) : List α → List α → Prop
  | nil : Widened loose apart [] []
  | keep (a : α) {as bs : List α} (rest : Widened loose apart as bs) :
      Widened loose apart (a :: as) (a :: bs)
  | insert {a : α} (free : loose a) {as bs : List α}
      (rest : Widened loose apart as bs) :
      Widened loose apart as (a :: bs)
  | swap {a b : α} (differ : apart a b) (as : List α) :
      Widened loose apart (a :: b :: as) (b :: a :: as)
  | trans {as bs cs : List α} (first : Widened loose apart as bs)
      (second : Widened loose apart bs cs) :
      Widened loose apart as cs

namespace Widened

variable {loose : α → Prop} {apart : α → α → Prop} {as bs : List α}

theorem refl (as : List α) : Widened loose apart as as := by
  induction as with
  | nil => exact .nil
  | cons a as ih => exact .keep a ih

/-- Items that are apart from each other may be put into any order. -/
theorem of_perm (order : as.Perm bs)
    (symmetric : ∀ {a b}, apart a b → apart b a) (differ : as.Pairwise apart) :
    Widened loose apart as bs := by
  induction order with
  | nil => exact .nil
  | cons a _ ih => exact .keep a (ih (List.pairwise_cons.mp differ).2)
  | swap b a as =>
    have neighbours := (List.pairwise_cons.mp differ).1 b List.mem_cons_self
    exact .swap neighbours as
  | trans first _ ih ih' =>
    exact .trans (ih differ) (ih' (differ.perm first symmetric))

/-- A fold does not notice what leaves its state alone, nor the order of what
commutes. -/
theorem foldl_eq {step : σ → α → σ} (h : Widened loose apart as bs)
    (skip : ∀ a, loose a → ∀ s, step s a = s)
    (commute : ∀ a b, apart a b → ∀ s, step (step s a) b = step (step s b) a)
    (s : σ) : bs.foldl step s = as.foldl step s := by
  induction h generalizing s with
  | nil => rfl
  | keep a _ ih => exact ih (step s a)
  | insert free _ ih => rw [List.foldl_cons, skip _ free, ih]
  | swap differ as =>
    rw [List.foldl_cons, List.foldl_cons, List.foldl_cons, List.foldl_cons,
      commute _ _ differ]
  | trans _ _ ih ih' => rw [ih', ih]

end Widened

/-! ### Tables -/

namespace Keyed

variable [DecidableEq κ]

theorem get?_put (key k : κ) (v : β) (table : Keyed κ β) :
    get? key (put k v table) = if k = key then some v else get? key table := by
  induction table with
  | nil => rfl
  | cons entry rest ih =>
    obtain ⟨k', w⟩ := entry
    rw [put]
    split_ifs with known here here
    · rw [get?, if_pos (known.trans here)]
    · rw [get?, get?, if_neg fun same => here (known.symm.trans same),
        if_neg fun same => here (known.symm.trans same)]
    · rw [get?, if_neg fun same => known (same.trans here.symm), ih, if_pos here]
    · rw [get?, get?, ih, if_neg here]

/-- The last entry under a key counts. -/
theorem get?_ofEntries (key : κ) (entries : List (κ × β)) :
    get? key (ofEntries entries) =
      entries.foldl (fun known entry =>
        if entry.1 = key then some entry.2 else known) none := by
  have generalised (table : Keyed κ β) : get? key
      (entries.foldl (fun table entry => put entry.1 entry.2 table) table) =
        entries.foldl (fun known entry =>
          if entry.1 = key then some entry.2 else known) (get? key table) := by
    induction entries generalizing table with
    | nil => rfl
    | cons entry entries ih => rw [List.foldl_cons, List.foldl_cons, ih, get?_put]
  exact generalised []

end Keyed

/-- The same stands under a key in the table of a list and in the table of one
that has more in it, if the key is under no item that was put in and the items
that changed places have different keys. -/
theorem Widened.get?_eq [DecidableEq κ] {loose : α → Prop}
    {apart : α → α → Prop} {as bs : List α} (h : Widened loose apart as bs)
    {held? : α → Option (κ × β)} {key : κ}
    (free : ∀ a e, loose a → held? a = some e → e.1 ≠ key)
    (differ : ∀ a b e e', apart a b → held? a = some e → held? b = some e' →
      e.1 ≠ e'.1) :
    Keyed.get? key (Keyed.ofEntries (bs.filterMap held?)) =
      Keyed.get? key (Keyed.ofEntries (as.filterMap held?)) := by
  rw [Keyed.get?_ofEntries, Keyed.get?_ofEntries, List.foldl_filterMap,
    List.foldl_filterMap]
  refine h.foldl_eq ?_ ?_ none
  · intro a loose known
    cases found : held? a with
    | none => rfl
    | some e => exact if_neg (free a e loose found)
  · intro a b apart known
    cases first : held? a with
    | none => rfl
    | some e =>
      cases second : held? b with
      | none => rfl
      | some e' =>
        have keys := differ a b e e' apart first second
        dsimp only
        split_ifs with here there
        · exact absurd (there.trans here.symm) keys
        all_goals rfl

theorem toOption_eq_some {x : Except ε α} {a : α} : x.toOption = some a ↔
    x = .ok a := by
  cases x with
  | error e => exact ⟨nofun, nofun⟩
  | ok b => exact ⟨fun h => congrArg _ (Option.some.inj h),
    fun h => congrArg _ (Except.ok.inj h)⟩

/-- What a loop that returns has read, item by item. -/
theorem filterMap_of_mapM {read : α → Except ε β} {as : List α} {bs : List β}
    (h : as.mapM read = .ok bs) :
    as.filterMap (fun a => (read a).toOption) = bs := by
  have each := mapM_eq_ok.mp h
  clear h
  induction each with
  | nil => rfl
  | cons first _ ih => rw [List.filterMap_cons, first, ih]; rfl

/-! ### Evaluations -/

namespace Estimator

variable {estimator other : Estimator} {legs : List Leg}

theorem positions_congr (programs : ∀ leg ∈ legs,
    Keyed.get? leg.program other.registry =
      Keyed.get? leg.program estimator.registry) :
    other.positions legs = estimator.positions legs := by
  refine mapM_congr fun leg hleg => ?_
  rw [position, position, kind, kind, programs leg hleg]

/-- The category and the price of a base asset depend on its profile and on
what stands at the address in it. -/
theorem info_congr {index : Int}
    (profiles : Keyed.get? index other.profiles =
      Keyed.get? index estimator.profiles)
    (prices : ∀ p, Keyed.get? index estimator.profiles = some p →
      Keyed.get? p.oracle other.prices = Keyed.get? p.oracle estimator.prices) :
    other.info index = estimator.info index := by
  have profile : other.profile index = estimator.profile index := by
    rw [Estimator.profile, Estimator.profile, profiles]
  rw [info, info, profile]
  refine bind_congr_ok fun p found => ?_
  have price : other.price p.oracle = estimator.price p.oracle := by
    rw [Estimator.price, Estimator.price, prices p (profile_eq_ok.mp found)]
  rw [price]

section Positions

variable {positions : List Position}
  (resolved : estimator.positions legs = .ok positions)

include resolved

theorem assets_congr
    (infos : ∀ leg ∈ legs,
      other.info leg.baseAsset = estimator.info leg.baseAsset) :
    other.assets positions = estimator.assets positions := by
  rw [assets_eq, assets_eq, baseAssets_of_positions resolved]
  refine mapM_congr fun i hi => ?_
  obtain ⟨leg, hleg, rfl⟩ := List.mem_map.mp (List.mem_eraseDups.mp hi)
  rw [infos leg hleg]

/-- The statistics of positions depend on the categories of their base
assets. -/
theorem portfolioStatistics_congr (live : LiveModel) {found : Keyed Int AssetInfo}
    (assets : estimator.assets positions = .ok found) {categories : CategoryTable}
    (same : ∀ leg ∈ legs, ∀ info, estimator.info leg.baseAsset = .ok info →
      Keyed.get? info.category categories =
        Keyed.get? info.category estimator.categories)
    (config : CollateralConfig) (period : Value) (now : Int) :
    portfolioStatistics live positions found categories config period now =
      portfolioStatistics live positions found estimator.categories config
        period now := by
  have groups : (positionsByAsset positions).mapM
      (groupStatistics live found categories period now) =
        (positionsByAsset positions).mapM
          (groupStatistics live found estimator.categories period now) := by
    rw [positionsByAsset_eq, List.mapM_map, List.mapM_map]
    refine mapM_congr fun i hi => ?_
    obtain ⟨info, known, held⟩ := info_of_assets assets hi
    rw [baseAssets_of_positions resolved] at hi
    obtain ⟨leg, hleg, rfl⟩ := List.mem_map.mp (List.mem_eraseDups.mp hi)
    simp only [Function.comp_apply, groupStatistics, held, same leg hleg info known]
  rw [portfolioStatistics, portfolioStatistics, groups]

end Positions

/-- The category of a base asset is that of its profile. -/
theorem exists_profile_of_info {index : Int} {info : AssetInfo}
    (h : estimator.info index = .ok info) :
    ∃ p, Keyed.get? index estimator.profiles = some p ∧
      info.category = p.category := by
  obtain ⟨p, found, h⟩ := bind_eq_ok.mp h
  obtain ⟨_, -, h⟩ := bind_eq_ok.mp h
  exact ⟨p, profile_eq_ok.mp found, by rw [← pure_eq_ok.mp h]⟩

/-- An evaluation asks the tables for the programs of the legs, their base
assets, and the categories of these. -/
theorem evaluate_congr (live : LiveModel) (config : other.config = estimator.config)
    (clock : other.clock = estimator.clock)
    (programs : ∀ leg ∈ legs, Keyed.get? leg.program other.registry =
      Keyed.get? leg.program estimator.registry)
    (infos : ∀ leg ∈ legs, other.info leg.baseAsset = estimator.info leg.baseAsset)
    (categories : ∀ leg ∈ legs, ∀ info, estimator.info leg.baseAsset = .ok info →
      Keyed.get? info.category other.categories =
        Keyed.get? info.category estimator.categories)
    (cases : List Case) (period : Value) :
    other.evaluate live legs cases period =
      estimator.evaluate live legs cases period := by
  rw [evaluate, evaluate, clock, positions_congr programs, config]
  refine bind_congr fun now => bind_congr_ok fun positions resolved => ?_
  rw [assets_congr resolved infos]
  refine bind_congr_ok fun found assets => ?_
  rw [portfolioStatistics_congr resolved live assets categories]

end Estimator

/-! ### Sections of documents -/

namespace Document

/-- The base assets of a document, one by one. -/
def assetItems (v : Value) : Except Fault (List Value) := do
  (← v.getOr "base_assets" (.list [])).items

/-- The instrument programs of a document, one by one. -/
def programFields (v : Value) : Except Fault (List (String × Value)) := do
  (← v.getOr "instruments" (.record [])).fields

/-- The risk categories of a document, one by one. -/
def categoryFields (v : Value) : Except Fault (List (String × Value)) := do
  (← v.getOr "risk_categories" (.record [])).fields

/-- The profile of a base asset under its index. -/
def profileEntry? (v : Value) : Option (Int × Profile) :=
  (AssetEntry.ofValue v).toOption.map fun e => (e.index, e.profile)

/-- The price of a base asset under its address, if it has one. -/
def priceEntry? (v : Value) : Option (String × Value) :=
  (AssetEntry.ofValue v).toOption.bind fun e => e.price.map (e.profile.oracle, ·)

/-- What the parts of a document are read from. -/
structure ReadFrom (v : Value) (d : Document) : Prop where
  assets : ∃ items, assetItems v = .ok items ∧
    d.profiles = Keyed.ofEntries (items.filterMap profileEntry?) ∧
    d.prices = Keyed.ofEntries (items.filterMap priceEntry?)
  programs : ∃ fields, programFields v = .ok fields ∧
    d.registry = Keyed.ofEntries
      (fields.filterMap fun field => (programEntry field).toOption)
  categories : ∃ fields, categoryFields v = .ok fields ∧
    d.categories = Keyed.ofEntries
      (fields.filterMap fun field => (CategoryTable.entry field).toOption)
  config : (v.getOr "collateral" (.record []) >>= CollateralConfig.ofValue) =
    .ok d.config
  legs : (v.getOr "legs" (.list []) >>= Leg.listOfValue) = .ok d.legs
  cases : (v.getOr "cases" (.list []) >>= Case.listOfValue) = .ok d.cases
  period : (v.getOr "settlement_period" (.whole 0) >>= Value.toWhole) = .ok d.period
  now : instant v = .ok d.now

theorem readFrom_of_ofValue {v : Value} {d : Document} (h : ofValue v = .ok d) :
    ReadFrom v d := by
  simp only [ofValue, assetEntries, CategoryTable.ofValue, programsOfValue,
    bind_eq_ok, pure_eq_ok] at h
  obtain ⟨list, hlist, entries, ⟨items, hitems, each⟩, _, -, collateral,
    hcollateral, config, hconfig, graded, hgraded, _,
    ⟨rows, hrows, categories, hcategories, rfl⟩, named, hnamed, _,
    ⟨fields, hfields, programs, hprograms, rfl⟩, legList, hlegList,
    legs, hlegs, caseList, hcaseList, cases, hcases, seconds, hseconds, period,
    hperiod, now, hnow, rfl⟩ := h
  refine ⟨⟨items, bind_eq_ok.mpr ⟨list, hlist, hitems⟩, ?_, ?_⟩,
    ⟨fields, bind_eq_ok.mpr ⟨named, hnamed, hfields⟩, ?_⟩,
    ⟨rows, bind_eq_ok.mpr ⟨graded, hgraded, hrows⟩, ?_⟩,
    bind_eq_ok.mpr ⟨collateral, hcollateral, hconfig⟩,
    bind_eq_ok.mpr ⟨legList, hlegList, hlegs⟩,
    bind_eq_ok.mpr ⟨caseList, hcaseList, hcases⟩,
    bind_eq_ok.mpr ⟨seconds, hseconds, hperiod⟩, hnow⟩
  · rw [profilesOf, ← filterMap_of_mapM each, List.map_filterMap]
    rfl
  · rw [pricesOf, ← filterMap_of_mapM each, List.filterMap_filterMap]
    rfl
  · rw [filterMap_of_mapM hprograms]
  · rw [filterMap_of_mapM hcategories]

/-! ### Documents with more in them -/

/-- A leg of a document stands under a base asset with this profile. -/
def Uses (d : Document) (p : Profile) : Prop :=
  ∃ leg ∈ d.legs, Keyed.get? leg.baseAsset d.profiles = some p

/-- A base asset under whose index no leg stands, and at whose address no price
is looked up. -/
def LooseAsset (d : Document) (v : Value) : Prop :=
  ∀ e, AssetEntry.ofValue v = .ok e →
    (∀ leg ∈ d.legs, leg.baseAsset ≠ e.index) ∧ ∀ p, d.Uses p →
    p.oracle ≠ e.profile.oracle

/-- Base assets with different indices and addresses. -/
def AssetsApart (v w : Value) : Prop :=
  ∀ e e', AssetEntry.ofValue v = .ok e → AssetEntry.ofValue w = .ok e' →
    e.index ≠ e'.index ∧ e.profile.oracle ≠ e'.profile.oracle

/-- A program that no leg names. -/
def LooseProgram (d : Document) (field : String × Value) : Prop :=
  ∀ leg ∈ d.legs, leg.program ≠ field.1

/-- A risk category, in whatever spelling, that no base asset in use belongs
to. -/
def LooseCategory (d : Document) (field : String × Value) : Prop :=
  ∀ c, Named.ofValue (.text field.1) = .ok c → ∀ p, d.Uses p → p.category ≠ c

/-- Different risk categories. -/
def CategoriesApart (field field' : String × Value) : Prop :=
  ∀ c c' : RiskCategory, Named.ofValue (.text field.1) = .ok c →
    Named.ofValue (.text field'.1) = .ok c' → c ≠ c'

/-- A section of two values, a list in the one and a list with more in it in
the other. -/
def Wider (part : Value → Except Fault (List α)) (loose : α → Prop)
    (apart : α → α → Prop) (v w : Value) : Prop :=
  ∃ as bs, part v = .ok as ∧ part w = .ok bs ∧ Widened loose apart as bs

theorem Wider.widened {part : Value → Except Fault (List α)} {loose : α → Prop}
    {apart : α → α → Prop} {v w : Value} (h : Wider part loose apart v w)
    {as bs : List α} (has : part v = .ok as) (hbs : part w = .ok bs) :
    Widened loose apart as bs := by
  obtain ⟨as', bs', has', hbs', widened⟩ := h
  obtain rfl := Except.ok.inj (has.symm.trans has')
  obtain rfl := Except.ok.inj (hbs.symm.trans hbs')
  exact widened

/-- The document `w` holds what `v` does, and beyond it only what the legs of
`v`, read as `d`, do not need. -/
structure Widens (d : Document) (v w : Value) : Prop where
  assets : Wider assetItems d.LooseAsset AssetsApart v w
  programs : Wider programFields d.LooseProgram
    (fun field field' => field.1 ≠ field'.1) v w
  categories : Wider categoryFields d.LooseCategory CategoriesApart v w
  rest : ∀ key, key ≠ "base_assets" → key ≠ "instruments" →
    key ≠ "risk_categories" → w.get key = v.get key

/-! ### Look-ups -/

theorem exists_of_profileEntry? {v : Value} {entry : Int × Profile}
    (h : profileEntry? v = some entry) :
    ∃ e, AssetEntry.ofValue v = .ok e ∧ e.index = entry.1 := by
  obtain ⟨e, read, rfl⟩ := Option.map_eq_some_iff.mp h
  exact ⟨e, toOption_eq_some.mp read, rfl⟩

theorem exists_of_priceEntry? {v : Value} {entry : String × Value}
    (h : priceEntry? v = some entry) :
    ∃ e, AssetEntry.ofValue v = .ok e ∧ e.profile.oracle = entry.1 := by
  obtain ⟨e, read, h⟩ := Option.bind_eq_some_iff.mp h
  obtain ⟨_, -, rfl⟩ := Option.map_eq_some_iff.mp h
  exact ⟨e, toOption_eq_some.mp read, rfl⟩

theorem program_of_entry {field : String × Value} {entry : String × InstrumentKind}
    (h : (programEntry field).toOption = some entry) : field.1 = entry.1 := by
  obtain ⟨_, -, h⟩ := bind_eq_ok.mp (toOption_eq_some.mp h)
  rw [← pure_eq_ok.mp h]

theorem category_of_entry {field : String × Value}
    {entry : RiskCategory × CategoryInfo}
    (h : (CategoryTable.entry field).toOption = some entry) :
    Named.ofValue (.text field.1) = .ok entry.1 := by
  obtain ⟨_, named, h⟩ := bind_eq_ok.mp (toOption_eq_some.mp h)
  obtain ⟨_, -, h⟩ := bind_eq_ok.mp h
  rw [← pure_eq_ok.mp h, named]

section Widens

variable {v w : Value} {d d' : Document} (h : d.Widens v w)
  (hv : ofValue v = .ok d) (hw : ofValue w = .ok d')

include h hv hw

theorem Widens.profile {leg : Leg} (hleg : leg ∈ d.legs) :
    Keyed.get? leg.baseAsset d'.profiles = Keyed.get? leg.baseAsset d.profiles := by
  obtain ⟨items, hitems, profiles, -⟩ := (readFrom_of_ofValue hv).assets
  obtain ⟨items', hitems', profiles', -⟩ := (readFrom_of_ofValue hw).assets
  rw [profiles, profiles']
  refine (h.assets.widened hitems hitems').get?_eq ?_ ?_
  · intro a entry loose found
    obtain ⟨e, read, key⟩ := exists_of_profileEntry? found
    rw [← key]
    exact ((loose e read).1 leg hleg).symm
  · intro a b entry entry' apart found found'
    obtain ⟨e, read, key⟩ := exists_of_profileEntry? found
    obtain ⟨e', read', key'⟩ := exists_of_profileEntry? found'
    rw [← key, ← key']
    exact (apart e e' read read').1

theorem Widens.price {p : Profile} (used : d.Uses p) :
    Keyed.get? p.oracle d'.prices = Keyed.get? p.oracle d.prices := by
  obtain ⟨items, hitems, -, prices⟩ := (readFrom_of_ofValue hv).assets
  obtain ⟨items', hitems', -, prices'⟩ := (readFrom_of_ofValue hw).assets
  rw [prices, prices']
  refine (h.assets.widened hitems hitems').get?_eq ?_ ?_
  · intro a entry loose found
    obtain ⟨e, read, key⟩ := exists_of_priceEntry? found
    rw [← key]
    exact ((loose e read).2 p used).symm
  · intro a b entry entry' apart found found'
    obtain ⟨e, read, key⟩ := exists_of_priceEntry? found
    obtain ⟨e', read', key'⟩ := exists_of_priceEntry? found'
    rw [← key, ← key']
    exact (apart e e' read read').2

theorem Widens.program {leg : Leg} (hleg : leg ∈ d.legs) :
    Keyed.get? leg.program d'.registry = Keyed.get? leg.program d.registry := by
  obtain ⟨fields, hfields, registry⟩ := (readFrom_of_ofValue hv).programs
  obtain ⟨fields', hfields', registry'⟩ := (readFrom_of_ofValue hw).programs
  rw [registry, registry']
  refine (h.programs.widened hfields hfields').get?_eq ?_ ?_
  · intro field entry loose found
    rw [← program_of_entry found]
    exact (loose leg hleg).symm
  · intro field field' entry entry' apart found found'
    rwa [← program_of_entry found, ← program_of_entry found']

theorem Widens.category {p : Profile} (used : d.Uses p) :
    Keyed.get? p.category d'.categories = Keyed.get? p.category d.categories := by
  obtain ⟨fields, hfields, categories⟩ := (readFrom_of_ofValue hv).categories
  obtain ⟨fields', hfields', categories'⟩ := (readFrom_of_ofValue hw).categories
  rw [categories, categories']
  refine (h.categories.widened hfields hfields').get?_eq ?_ ?_
  · intro field entry loose found
    exact (loose _ (category_of_entry found) p used).symm
  · intro field field' entry entry' apart found found'
    exact apart _ _ (category_of_entry found) (category_of_entry found')

/-- Everything but the tables is read as before. -/
theorem Widens.same : d'.config = d.config ∧ d'.legs = d.legs ∧
    d'.cases = d.cases ∧ d'.period = d.period ∧
    d'.now = d.now := by
  have read := readFrom_of_ofValue hv
  have read' := readFrom_of_ofValue hw
  have part (key : String) (missing : Value) (assets : key ≠ "base_assets")
      (programs : key ≠ "instruments") (categories : key ≠ "risk_categories") :
        w.getOr key missing = v.getOr key missing := by
    rw [Value.getOr, Value.getOr, h.rest key assets programs categories]
  have config := read'.config
  have legs := read'.legs
  have cases := read'.cases
  have period := read'.period
  have now := read'.now
  rw [part _ _ (by decide) (by decide) (by decide)] at config legs cases period
  rw [instant, h.rest _ (by decide) (by decide) (by decide)] at now
  exact ⟨Except.ok.inj (config.symm.trans read.config),
    Except.ok.inj (legs.symm.trans read.legs),
    Except.ok.inj (cases.symm.trans read.cases),
    Except.ok.inj (period.symm.trans read.period),
    Except.ok.inj (now.symm.trans read.now)⟩

end Widens

/-- **What legs do not need does not show.**  A document may be widened by base
assets under whose indices no leg stands and at whose addresses no price of a
base asset in use is looked up, by programs that no leg names, and by risk
categories that no base asset in use belongs to; base assets with different
indices and addresses, different programs and different categories may be put
into another order.  If it can still be read, it is evaluated as before: the
data and statistics of base assets, the portfolio and the required amounts are
the same, and so is the fault if there is one. -/
theorem appraise_widened (live : LiveModel) (clock : Value) {v w : Value}
    {d d' : Document} (hv : ofValue v = .ok d) (hw : ofValue w = .ok d')
    (h : d.Widens v w) : appraise live clock w = appraise live clock v := by
  obtain ⟨config, legs, cases, period, now⟩ := h.same hv hw
  have evaluations :
      (d'.estimator clock).evaluate live d'.legs d'.cases (.whole d'.period) =
      (d.estimator clock).evaluate live d.legs d.cases (.whole d.period) := by
    rw [legs, cases, period]
    refine Estimator.evaluate_congr live config ?_
      (fun leg => h.program hv hw) ?_ ?_ d.cases _
    · rw [estimator, estimator, now]
    · intro leg hleg
      exact Estimator.info_congr (h.profile hv hw hleg) fun p found =>
        h.price hv hw ⟨leg, hleg, found⟩
    · intro leg hleg info found
      obtain ⟨p, profile, category⟩ := Estimator.exists_profile_of_info found
      rw [category]
      exact h.category hv hw ⟨leg, hleg, profile⟩
  rw [appraise, appraise, hv, hw]
  exact evaluations

end Document

/-! ### A document with more in it -/

namespace Sample

/-- A base asset of a document, its price at the default address. -/
def asset (index : Int) (category : RiskCategory) (price : Nat) : Value :=
  .record [("index", .whole index),
    ("risk_category", .text (Named.name category)), ("price", .whole price)]

theorem asset_read {index : Int} {address : String}
    (standard : defaultOracle index = .ok address) (category : RiskCategory)
    (price : Nat) :
    AssetEntry.ofValue (asset index category price) =
      .ok ⟨index, ⟨category, address⟩, some (.whole price)⟩ := by
  have named : Named.ofValue (.text (Named.name category)) = .ok category := by
    cases category <;> decide +kernel
  have key : (asset index category price).need "index" =
      .ok (.whole index) := by simp [asset, Value.need, Keyed.get?]
  have oracle : (asset index category price).get "oracle" = .ok none := by
    simp [asset, Value.get, Value.fields, Keyed.get?]
  have grade : (asset index category price).need "risk_category" =
      .ok (.text (Named.name category)) := by
    simp [asset, Value.need, Keyed.get?]
  have held : (asset index category price).get "price" =
      .ok (some (.whole price)) := by
    simp [asset, Value.get, Value.fields, Keyed.get?]
  simp only [AssetEntry.ofValue, Value.getOr, key, oracle, grade, held,
    bind_eq_ok, pure_eq_ok]
  exact ⟨_, rfl, index, rfl, address, standard, .text address, rfl, address,
    rfl, _, rfl, category, named, _, rfl, rfl⟩

theorem oracle_zero : defaultOracle 0 = .ok "oracle-0" := by decide +kernel

theorem oracle_five : defaultOracle 5 = .ok "oracle-5" := by decide +kernel

theorem oracle_seven : defaultOracle 7 = .ok "oracle-7" := by decide +kernel

/-- A risk category of a document with the same scenario for all periods. -/
def grade (change : Value) : Value :=
  .record
    [("scenarios",
      .list (List.replicate bucketCount (.list [change, .whole 0])))]

/-- A document about spot legs in two base assets, its tables left open. -/
def listing (assets : List Value)
    (programs categories : List (String × Value)) : Value :=
  .record [
    ("base_assets", .list assets), ("instruments", .record programs),
    ("risk_categories", .record categories), ("legs", .list [
      .record [("base_asset", .whole 0), ("amount", .whole 2),
        ("instrument", .text "cash")],
      .record [("base_asset", .whole 5), ("amount", .whole 1),
        ("instrument", .text "cash"), ("side", .text "short")]]),
    ("cases", .list [.record []]),
    ("now", .whole 0)]

theorem listing_sections (assets : List Value)
    (programs categories : List (String × Value)) :
    Document.assetItems (listing assets programs categories) = .ok assets ∧
      Document.programFields (listing assets programs categories) = .ok programs ∧
      Document.categoryFields (listing assets programs categories) =
        .ok categories :=
  ⟨rfl, rfl, rfl⟩

/-- What the legs need. -/
def bare : Value :=
  listing [asset 0 .low 100, asset 5 .high 40] [("cash", .text "spot")]
    [("low", grade (.real 0.1)), ("high", grade (.real 0.2))]

/-- More than the legs need, and what they need in another order. -/
def laden : Value :=
  listing [asset 7 .medium 3, asset 5 .high 40, asset 0 .low 100]
    [("calls", .text "option"), ("cash", .text "spot")]
    [("high", grade (.real 0.2)), ("veryHigh", grade (.text "1.5")),
      ("low", grade (.real 0.1))]

/-- The legs of the document and the profiles of their base assets. -/
theorem bare_read : ∃ d, Document.ofValue bare = .ok d ∧
    d.legs.map (fun leg => (leg.baseAsset, leg.program)) =
      [(0, "cash"), (5, "cash")] ∧
    ∀ p, d.Uses p → p = ⟨.low, "oracle-0"⟩ ∨ p = ⟨.high, "oracle-5"⟩ := by
  have run : (Document.ofValue bare).map (fun d =>
        (d.legs.map fun leg => (leg.baseAsset, leg.program), d.profiles)) =
      .ok ([(0, "cash"), (5, "cash")],
        [(0, ⟨.low, "oracle-0"⟩), (5, ⟨.high, "oracle-5"⟩)]) := by
        decide +kernel
  obtain ⟨d, hd, facts⟩ := map_eq_ok.mp run
  obtain ⟨legs, profiles⟩ := Prod.mk.inj facts
  refine ⟨d, hd, legs, ?_⟩
  rintro p ⟨leg, hleg, found⟩
  rw [profiles] at found
  have mem := List.mem_map_of_mem
    (f := fun leg : Leg => (leg.baseAsset, leg.program)) hleg
  rw [legs] at mem
  simp only [List.mem_cons, Prod.mk.injEq, List.not_mem_nil, or_false] at mem
  rcases mem with ⟨first, -⟩ | ⟨second, -⟩
  · rw [first] at found
    exact .inl (Option.some.inj found).symm
  · rw [second] at found
    exact .inr (Option.some.inj found).symm

theorem assets_apart {i j : Int} {a b : String} (hi : defaultOracle i = .ok a)
    (hj : defaultOracle j = .ok b) {c c' : RiskCategory} {x y : Nat}
    (indices : i ≠ j) (addresses : a ≠ b) :
    Document.AssetsApart (asset i c x) (asset j c' y) := by
  intro e e' read read'
  obtain rfl := Except.ok.inj ((asset_read hi _ _).symm.trans read)
  obtain rfl := Except.ok.inj ((asset_read hj _ _).symm.trans read')
  exact ⟨indices, addresses⟩

/-- A document is widened by a base asset, a program and a category, and its
base assets and categories change places. -/
theorem bare_widens {d : Document}
    (legs : d.legs.map (fun leg => (leg.baseAsset, leg.program)) =
      [(0, "cash"), (5, "cash")])
    (uses : ∀ p, d.Uses p → p = ⟨.low, "oracle-0"⟩ ∨ p = ⟨.high, "oracle-5"⟩) :
    d.Widens bare laden := by
  have ofLeg {leg : Leg} (hleg : leg ∈ d.legs) :
      (leg.baseAsset = 0 ∨ leg.baseAsset = 5) ∧ leg.program = "cash" := by
    have mem := List.mem_map_of_mem
      (f := fun leg : Leg => (leg.baseAsset, leg.program)) hleg
    rw [legs] at mem
    simp only [List.mem_cons, Prod.mk.injEq, List.not_mem_nil, or_false] at mem
    tauto
  have low : Named.ofValue (.text "low") = .ok RiskCategory.low := by decide +kernel
  have high : Named.ofValue (.text "high") = .ok RiskCategory.high := by
    decide +kernel
  have veryHigh : Named.ofValue (.text "veryHigh") =
      .ok RiskCategory.veryHigh := by decide +kernel
  obtain ⟨assets, programs, categories⟩ := listing_sections
    [asset 0 .low 100, asset 5 .high 40] [("cash", .text "spot")]
    [("low", grade (.real 0.1)), ("high", grade (.real 0.2))]
  obtain ⟨assets', programs', categories'⟩ :=
    listing_sections [asset 7 .medium 3, asset 5 .high 40, asset 0 .low 100]
      [("calls", .text "option"), ("cash", .text "spot")]
    [("high", grade (.real 0.2)), ("veryHigh", grade (.text "1.5")),
      ("low", grade (.real 0.1))]
  refine ⟨⟨_, _, assets, assets', ?_⟩, ⟨_, _, programs, programs', ?_⟩,
    ⟨_, _, categories, categories', ?_⟩, ?_⟩
  · refine .insert ?_ (.of_perm (.swap _ _ _) ?_ ?_)
    · intro e read
      obtain rfl := Except.ok.inj ((asset_read oracle_seven _ _).symm.trans read)
      refine ⟨fun leg hleg => ?_, fun p used => ?_⟩
      · rcases (ofLeg hleg).1 with first | second
        · rw [first]
          decide
        · rw [second]
          decide
      · rcases uses p used with rfl | rfl <;> decide +kernel
    · exact fun apart e e' read read' => (apart e' e read' read).imp Ne.symm Ne.symm
    · exact List.pairwise_pair.mpr
        (assets_apart oracle_zero oracle_five (by decide) (by decide))
  · refine .insert ?_ (.refl _)
    intro leg hleg
    rw [(ofLeg hleg).2]
    decide
  · refine .trans (.swap ?_ []) (.keep _ (.insert ?_ (.refl _)))
    · intro c c' named named'
      obtain rfl := Except.ok.inj (low.symm.trans named)
      obtain rfl := Except.ok.inj (high.symm.trans named')
      decide
    · intro c named p used
      obtain rfl := Except.ok.inj (veryHigh.symm.trans named)
      rcases uses p used with rfl | rfl <;> decide
  · intro key assets programs categories
    have rest (a b c : Value) (fields : List (String × Value)) :
        Keyed.get? key (("base_assets", a) :: ("instruments", b) ::
          ("risk_categories", c) :: fields) =
          Keyed.get? key fields := by
      rw [Keyed.get?, if_neg assets.symm, Keyed.get?, if_neg programs.symm,
        Keyed.get?, if_neg categories.symm]
    exact congrArg Except.ok ((rest _ _ _ _).trans (rest _ _ _ _).symm)

end Sample

/-- The document with more in it requires the same. -/
theorem sample_laden :
    ∃ d d', Document.ofValue Sample.bare = .ok d ∧
      Document.ofValue Sample.laden = .ok d' ∧
      d.Widens Sample.bare Sample.laden ∧
      Document.appraise Sample.live .null Sample.laden =
        Document.appraise Sample.live .null Sample.bare ∧
      ∃ e, Document.appraise Sample.live .null Sample.bare = .ok e ∧
        e.required.map Prod.snd = [.finite false 280 (-1)] := by
  obtain ⟨d, hd, legs, uses⟩ := Sample.bare_read
  have read : (Document.ofValue Sample.laden).map (fun d => d.legs.length) =
      .ok 2 := by decide +kernel
  obtain ⟨d', hd', -⟩ := map_eq_ok.mp read
  have run : (Document.appraise Sample.live .null Sample.bare).map
      (fun e => e.required.map Prod.snd) = .ok [.finite false 280 (-1)] := by
        decide +kernel
  have widens := Sample.bare_widens legs uses
  exact ⟨d, d', hd, hd', widens,
    Document.appraise_widened Sample.live .null hd hd' widens, map_eq_ok.mp run⟩

end ScenarioMargin
