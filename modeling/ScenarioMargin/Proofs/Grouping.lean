/-
ScenarioMargin/Proofs/Grouping.lean

What grouping makes of a list.  The groups are made item by item, each item
going to the end of its own group; the main result `groupBy_eq` says what comes
out in one line: the keys in the order in which they are first seen, each with
the items that have it, in their order.

The order of first sight is `List.eraseDups`; here it is also characterised by
positions (`eraseDups_pairwise`).
-/
import Mathlib.Data.List.Nodup
import Mathlib.Tactic
import ScenarioMargin.Portfolio

namespace ScenarioMargin

variable {κ β γ : Type} [DecidableEq κ]

/-! ### First sight -/

/-- One more item is seen first only if it was not seen before. -/
theorem eraseDups_concat (keys : List κ) (key : κ) :
    (keys ++ [key]).eraseDups =
      keys.eraseDups ++ if key ∈ keys then [] else [key] := by
  rw [List.eraseDups_append]
  congr 1
  split_ifs with seen
  · simp [List.removeAll, seen]
  · simp [List.removeAll, seen, List.eraseDups_cons]

theorem eraseDups_nodup (keys : List κ) : keys.eraseDups.Nodup := by
  induction keys using List.reverseRecOn with
  | nil => exact List.nodup_nil
  | append_singleton keys key ih =>
    rw [eraseDups_concat]
    split_ifs with seen
    · simpa using ih
    · rw [List.nodup_append]
      refine ⟨ih, List.nodup_singleton key, ?_⟩
      intro a ha b hb same
      rw [List.mem_singleton] at hb
      rw [List.mem_eraseDups, same, hb] at ha
      exact seen ha

/-- Keys stand in the order of their first positions. -/
theorem eraseDups_pairwise (keys : List κ) :
    keys.eraseDups.Pairwise fun a b => keys.idxOf a < keys.idxOf b := by
  induction keys using List.reverseRecOn with
  | nil => exact .nil
  | append_singleton keys key ih =>
    -- the positions of old keys stay, and a new key stands behind all of them
    have stay : ∀ a ∈ keys, (keys ++ [key]).idxOf a = keys.idxOf a :=
      fun a ha => List.idxOf_append_of_mem ha
    have ih' : keys.eraseDups.Pairwise fun a b =>
        (keys ++ [key]).idxOf a < (keys ++ [key]).idxOf b := by
      apply ih.imp_of_mem
      intro a b ha hb order
      rwa [stay a (List.mem_eraseDups.mp ha), stay b (List.mem_eraseDups.mp hb)]
    rw [eraseDups_concat]
    split_ifs with seen
    · simpa using ih'
    · rw [List.pairwise_append]
      refine ⟨ih', List.pairwise_singleton _ _, ?_⟩
      intro a ha b hb
      rw [List.mem_singleton] at hb
      have ha' := List.mem_eraseDups.mp ha
      rw [hb, stay a ha', List.idxOf_append_of_notMem seen]
      have := List.idxOf_lt_length_of_mem ha'
      omega

/-! ### Groups -/

namespace Keyed

/-- Under keys that stand only once, every entry is found. -/
theorem get?_of_mem {table : Keyed κ β} (once : (keys table).Nodup)
    {key : κ} {value : β} (h : (key, value) ∈ table) :
    get? key table = some value := by
  induction table with
  | nil => cases h
  | cons entry rest ih =>
    obtain ⟨k, v⟩ := entry
    obtain ⟨new, once⟩ := List.nodup_cons.mp once
    rcases List.mem_cons.mp h with same | later
    · obtain ⟨rfl, rfl⟩ := Prod.mk.inj same
      rw [get?, if_pos rfl]
    · have differ : k ≠ key := by
        rintro rfl
        exact new (List.mem_map.mpr ⟨_, later, rfl⟩)
      rw [get?, if_neg differ, ih once later]

/-- An item under a new key makes a group of its own, at the end. -/
theorem adjoin_of_notMem {key : κ} {item : β} {table : Keyed κ (List β)}
    (new : key ∉ keys table) :
    adjoin key item table = table ++ [(key, [item])] := by
  induction table with
  | nil => rfl
  | cons entry rest ih =>
    obtain ⟨k, items⟩ := entry
    have differ : k ≠ key := fun same => new (by simp [keys, same])
    have absent : key ∉ keys rest := fun found => new (List.mem_cons_of_mem _ found)
    rw [adjoin, if_neg differ, ih absent]
    rfl

/-- An item under a known key goes to the end of that key's group. -/
theorem adjoin_of_mem {key : κ} {item : β} {ks : List κ} (known : key ∈ ks)
    (once : ks.Nodup) (group : κ → List β) :
    adjoin key item (ks.map fun k => (k, group k)) =
      ks.map fun k => (k, if key = k then group k ++ [item] else group k) := by
  induction ks with
  | nil => cases known
  | cons k ks ih =>
    rw [List.nodup_cons] at once
    rw [List.map_cons, List.map_cons, adjoin]
    split_ifs with here there there
    · congr 1
      apply List.map_congr_left
      intro j hj
      have differ : key ≠ j := fun same => once.1 (by rw [here, same]; exact hj)
      rw [if_neg differ]
    · exact absurd here.symm there
    · exact absurd there.symm here
    · rw [ih (List.mem_of_ne_of_mem there known) once.2]

/-- **Groups.**  Grouping takes the keys in the order in which they are first
seen, each with its items in order. -/
theorem groupBy_eq (key : β → κ) (items : List β) :
    groupBy key items = (items.map key).eraseDups.map fun k =>
      (k, items.filter fun item => key item = k) := by
  induction items using List.reverseRecOn with
  | nil => rfl
  | append_singleton items item ih =>
    have step : groupBy key (items ++ [item]) =
        adjoin (key item) item (groupBy key items) := by
      simp [groupBy, List.foldl_append]
    rw [step, ih, List.map_append, List.map_singleton, eraseDups_concat,
      List.map_append]
    -- the new item goes to the end of its group, or makes the last group
    by_cases seen : key item ∈ items.map key
    · rw [if_pos seen, List.map_nil, List.append_nil,
        adjoin_of_mem (List.mem_eraseDups.mpr seen) (eraseDups_nodup _)]
      apply List.map_congr_left
      intro k _
      rw [List.filter_append, List.filter_singleton]
      split_ifs <;> simp_all
    · have new : key item ∉ keys ((items.map key).eraseDups.map fun k =>
            (k, items.filter fun item => key item = k)) := by
        simpa [keys] using seen
      rw [if_neg seen, adjoin_of_notMem new]
      congr 1
      · apply List.map_congr_left
        intro k hk
        have differ : key item ≠ k :=
          fun same => seen (by rw [same]; exact List.mem_eraseDups.mp hk)
        simp [List.filter_append, differ]
      · have none : items.filter (fun other => key other = key item) = [] := by
          rw [List.filter_eq_nil_iff]
          intro other ho same
          exact seen (List.mem_map.mpr ⟨other, ho, by simpa using same⟩)
        simp [List.filter_append, none]

/-- Grouping loses no item and repeats none. -/
theorem flatMap_filter_perm (key : β → κ) {keys : List κ} (once : keys.Nodup)
    {items : List β} (covered : ∀ item ∈ items, key item ∈ keys) :
    (keys.flatMap fun k => items.filter fun item => key item = k).Perm items := by
  induction keys generalizing items with
  | nil =>
    have none : items = [] :=
      List.eq_nil_iff_forall_not_mem.mpr fun item hi => nomatch covered item hi
    rw [none]
    exact .nil
  | cons k keys ih =>
    obtain ⟨new, once⟩ := List.nodup_cons.mp once
    -- the items under other keys are grouped by the keys that are left
    have others :
        (keys.flatMap fun j =>
          (items.filter fun item => ¬ key item = k).filter fun item =>
          key item = j).Perm
        (items.filter fun item => ¬ key item = k) := by
      refine ih once ?_
      intro item hi
      obtain ⟨mem, other⟩ := List.mem_filter.mp hi
      exact (List.mem_cons.mp (covered item mem)).resolve_left
        (of_decide_eq_true other)
    have same : ∀ j ∈ keys,
        ((items.filter fun item => ¬ key item = k).filter fun item =>
          key item = j) =
        items.filter fun item => key item = j := by
      intro j hj
      rw [List.filter_filter]
      apply List.filter_congr
      intro item _
      have differ : ¬ j = k := fun same => new (same ▸ hj)
      by_cases here : key item = j <;> simp [here, differ]
    rw [List.flatMap_congr same] at others
    rw [List.flatMap_cons]
    exact (others.append_left _).trans
      (by simpa using List.filter_append_perm (fun item => key item = k) items)

/-- Grouping does not see how the items of different groups are interleaved. -/
theorem groupBy_congr {key : β → κ} {items items' : List β}
    (order : (items'.map key).eraseDups = (items.map key).eraseDups)
    (same : ∀ k, (items'.filter fun item => key item = k) =
      items.filter fun item => key item = k) :
    groupBy key items' = groupBy key items := by
  rw [groupBy_eq, groupBy_eq, order]
  simp only [same]

/-- Grouping does not see what leaves the keys as they are. -/
theorem groupBy_map (key : γ → κ) (f : β → γ) (items : List β) :
    groupBy key (items.map f) = (groupBy (fun item => key (f item)) items).map
      fun g => (g.1, g.2.map f) := by
  rw [groupBy_eq, groupBy_eq, List.map_map, List.map_map]
  apply List.map_congr_left
  intro k _
  simp [List.filter_map, Function.comp_def]

end Keyed

/-! ### A small book

Three positions in two base assets, to run general statements on. -/

namespace Sample

/-- Options at the larger of zero and what is above the strike. -/
def live : LiveModel := fun _ strike _ _ market => do
  (← market.price.sub strike).larger .zero

/-- Spot and an option of one base asset, a future of another. -/
def book : List Position :=
  [⟨0, .finite false 2000 (-3), .long, .spot⟩,
   ⟨1, .finite false 15 (-1), .short, .perpFuture (.ofInt 10)⟩,
   ⟨0, .finite false 3000 (-3), .short, .option .call .one (.ofInt 100) 10⟩]

def infos : Keyed Int AssetInfo :=
  [(0, ⟨.low, .ofInt 100⟩), (1, ⟨.high, .finite false 25 (-1)⟩)]

def category : CategoryInfo :=
  ⟨.zero, .one,
    List.replicate bucketCount ⟨.finite false 10 (-2), .finite false 5 (-1)⟩,
    rfl⟩

def categories : CategoryTable :=
  [(.low, category), (.high, category)]

def config : CollateralConfig :=
  ⟨.finite false 1 (-2), .finite false 1 (-1), 5000000, 6, 0, 0⟩

/-- The book can gain more than it can lose: its worst result is a gain. -/
def statistics : PortfolioStatistics where
  assets :=
    [(0, ⟨.finite false 2000000 (-5), .finite false 1000000 (-5),
      .finite false 200000 (-3), 4⟩),
     (1, ⟨.finite false 37500 (-4), .finite true 37500 (-4),
      .finite false 3750 (-2), 2⟩)]
  portfolio := ⟨.finite true 4262500 (-6), .finite false 28737500 (-6)⟩

example : (positionsByAsset book).map (fun g => (g.1, g.2.length)) =
    [(0, 2), (1, 1)] := by decide

end Sample

end ScenarioMargin
