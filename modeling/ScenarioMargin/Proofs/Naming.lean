/-
ScenarioMargin/Proofs/Naming.lean

The texts that are read as a name.  The name may be written in either case,
letter by letter; and where a name has an underscore, a hump may stand in its
place: a capital directly after a small letter or a digit.  These are all the
texts that are read (`Named.Plain.ofValue_iff`).

A hump puts an underscore into the form of the text and nothing takes one away,
so that the underscores of a name bound the humps of its texts.  No name of
these enumerations has two: a text has no hump, or one hump and no underscore.

Main result: `Named.ofValue_spelled`.
-/
import Mathlib.Tactic
import ScenarioMargin.Document.Name
import ScenarioMargin.Proofs.Characters
import ScenarioMargin.Proofs.Writing

namespace ScenarioMargin

open Text

/-! ### Letters -/

/-- The Kelvin sign, a capital outside the plain alphabet whose small letter is
inside it. -/
def kelvinSign : Char := '\u212a'

/-- A character is written for a character of a name: the same one, or the
capital of a small letter. -/
def StandsFor (c d : Char) : Prop :=
  c = d ∨ (d.isLower ∧ c = d.toUpper) ∨ (c = kelvinSign ∧ d = 'k')

/-- The characters of names. -/
def IsNameLetter (d : Char) : Prop :=
  d.isLower ∨ d = '-' ∨ d = '_'

instance (d : Char) : Decidable (IsNameLetter d) :=
  inferInstanceAs (Decidable (_ ∨ _))

section Letters

variable {c d : Char}

theorem IsNameLetter.not_isUpper (h : IsNameLetter d) : ¬ d.isUpper := by
  rcases h with h | rfl | rfl
  · rw [isUpper_iff_toNat]
    have range := isLower_iff_toNat.mp h
    omega
  all_goals decide

theorem IsNameLetter.plain (h : IsNameLetter d) : d.toNat < 128 := by
  rcases h with h | rfl | rfl
  · have range := isLower_iff_toNat.mp h
    omega
  all_goals decide

theorem smallLetter_kelvinSign : smallLetter kelvinSign = 'k' := by
  decide

theorem smallLetter_of_ne (h : c ≠ kelvinSign) : smallLetter c = c.toLower := by
  have other : c.toNat ≠ 0x212A := fun same => h (Char.toNat_inj.mp same)
  rw [smallLetter, if_neg other]

/-- The characters that have a character of names as their small letter. -/
theorem smallLetter_eq_iff (letter : IsNameLetter d) : smallLetter c = d ↔
    StandsFor c d := by
  have plain := letter.plain
  constructor
  · rintro rfl
    by_cases kelvin : c = kelvinSign
    · obtain rfl := kelvin
      exact .inr (.inr ⟨rfl, smallLetter_kelvinSign⟩)
    rw [smallLetter_of_ne kelvin]
    by_cases capital : c.isUpper
    · obtain ⟨small, back⟩ := toLower_of_isUpper capital
      exact .inr (.inl ⟨small, back.symm⟩)
    · exact .inl (toLower_of_not_isUpper capital).symm
  · have other {c : Char} (h : c.toNat < 128) : c ≠ kelvinSign := by
      rintro rfl
      exact absurd h (by decide)
    rintro (rfl | ⟨small, rfl⟩ | ⟨rfl, rfl⟩)
    · rw [smallLetter_of_ne (other plain),
        toLower_of_not_isUpper letter.not_isUpper]
    · obtain ⟨capital, back⟩ := toUpper_of_isLower small
      have range := isUpper_iff_toNat.mp capital
      rw [smallLetter_of_ne (other (by omega)), back]
    · exact smallLetter_kelvinSign

theorem map_smallLetter_eq_iff {cs name : List Char}
    (letters : ∀ d ∈ name, IsNameLetter d) :
    cs.map smallLetter = name ↔ List.Forall₂ StandsFor cs name := by
  induction cs generalizing name with
  | nil => simp [eq_comm]
  | cons c cs ih =>
    cases name with
    | nil => simp
    | cons d name =>
      obtain ⟨letter, letters⟩ := List.forall_mem_cons.mp letters
      rw [List.map_cons, List.cons.injEq, List.forall₂_cons,
        smallLetter_eq_iff letter, ih letters]

end Letters

/-! ### Humps -/

/-- A hump: a capital after this position, directly after a small letter or a
digit. -/
def IsBoundary (cs : List Char) (i : ℕ) : Prop :=
  ∃ c d, cs[i]? = some c ∧ cs[i + 1]? = some d ∧ (c.isLower ∨ c.isDigit) ∧ d.isUpper

section Humps

variable {cs : List Char} {c d : Char} {i j : ℕ}

theorem isBoundary_cons_succ : IsBoundary (c :: cs) (i + 1) ↔ IsBoundary cs i :=
  Iff.rfl

theorem isBoundary_cons_zero : IsBoundary (c :: d :: cs) 0 ↔
    ((c.isLower || c.isDigit) && d.isUpper) = true := by
  simp [IsBoundary]

theorem IsBoundary.lt_length (h : IsBoundary cs i) : i + 1 < cs.length := by
  obtain ⟨-, d, -, next, -⟩ := h
  exact (List.getElem?_eq_some_iff.mp next).1

theorem IsBoundary.of_take (h : IsBoundary (cs.take j) i) : IsBoundary cs i := by
  obtain ⟨c, d, here, next, shape⟩ := h
  have lt := IsBoundary.lt_length ⟨c, d, here, next, shape⟩
  rw [List.length_take] at lt
  rw [List.getElem?_take_of_lt (by omega)] at here next
  exact ⟨c, d, here, next, shape⟩

theorem isBoundary_drop : IsBoundary (cs.drop j) i ↔ IsBoundary cs (j + i) := by
  simp only [IsBoundary, List.getElem?_drop, Nat.add_assoc]

/-- A text without humps has no underscores put into it. -/
theorem splitHumps_eq_self (h : ∀ i, ¬ IsBoundary cs i) : splitHumps cs = cs := by
  induction cs using splitHumps.induct with
  | case1 c d rest hump => exact absurd (isBoundary_cons_zero.mpr hump) (h 0)
  | case2 c d rest flat ih => rw [splitHumps, if_neg flat, ih fun i => h (i + 1)]
  | case3 cs short =>
    match cs, short with
    | [], _ => rfl
    | [_], _ => rfl
    | c :: d :: rest, short => exact (short c d rest rfl).elim

theorem splitHumps_cons_cons (c d : Char) (rest : List Char) :
    splitHumps (c :: d :: rest) =
      (if (c.isLower || c.isDigit) && d.isUpper then [c, '_'] else [c]) ++
        splitHumps (d :: rest) := by
  rw [splitHumps]
  split <;> rfl

/-- A hump is where an underscore is put. -/
theorem splitHumps_of_isBoundary (h : IsBoundary cs i) :
    splitHumps cs =
      splitHumps (cs.take (i + 1)) ++ '_' :: splitHumps (cs.drop (i + 1)) := by
  induction i generalizing cs with
  | zero =>
    match cs, h.lt_length with
    | c :: d :: rest, _ =>
      rw [splitHumps_cons_cons, if_pos (isBoundary_cons_zero.mp h)]
      rfl
  | succ i ih =>
    match cs, h.lt_length with
    | c :: d :: rest, _ =>
      have later := ih (isBoundary_cons_succ.mp h)
      rw [List.take_succ_cons] at later
      rw [splitHumps_cons_cons, later, ← List.append_assoc, List.take_succ_cons,
        List.take_succ_cons, splitHumps_cons_cons,
        List.drop_succ_cons (i := i + 1)]

end Humps

/-! ### The texts of a name -/

/-- The texts that are read as a name.  Either they have no hump and every
character stands for its own; or they leave out one underscore and have a hump
there and nowhere else. -/
inductive Spells (name : List Char) (cs : List Char) : Prop
  | flat (bare : ∀ i, ¬ IsBoundary cs i) (letters : List.Forall₂ StandsFor cs name)
  | humped {first second : List Char} {i : ℕ}
      (parts : name = first ++ '_' :: second)
    (letters : List.Forall₂ StandsFor cs (first ++ second))
      (place : first.length = i + 1)
    (only : ∀ j, IsBoundary cs j ↔ j = i)

section Spells

variable {name cs : List Char} {i j : ℕ}

theorem underscore_mem_of_isBoundary (h : IsBoundary cs i) :
    '_' ∈ (splitHumps cs).map smallLetter := by
  rw [splitHumps_of_isBoundary h, List.map_append, List.map_cons]
  exact List.mem_append_right _ List.mem_cons_self

/-- In a text with a form of one underscore at most, a hump is where this
underscore is put. -/
theorem form_of_isBoundary (single : name.count '_' ≤ 1)
    (form : (splitHumps cs).map smallLetter = name) (hump : IsBoundary cs i) :
    name = (cs.take (i + 1)).map smallLetter ++
      '_' :: (cs.drop (i + 1)).map smallLetter ∧
      '_' ∉ (cs.take (i + 1)).map smallLetter ∧
      '_' ∉ (cs.drop (i + 1)).map smallLetter := by
  have put : smallLetter '_' = '_' := rfl
  rw [splitHumps_of_isBoundary hump, List.map_append, List.map_cons, put] at form
  have count := congrArg (List.count '_') form
  rw [List.count_append, List.count_cons_self] at count
  have before : '_' ∉ (splitHumps (cs.take (i + 1))).map smallLetter :=
    List.count_eq_zero.mp (by omega)
  have after : '_' ∉ (splitHumps (cs.drop (i + 1))).map smallLetter :=
    List.count_eq_zero.mp (by omega)
  have bare : splitHumps (cs.take (i + 1)) = cs.take (i + 1) :=
    splitHumps_eq_self fun _ other => before (underscore_mem_of_isBoundary other)
  have bare' : splitHumps (cs.drop (i + 1)) = cs.drop (i + 1) :=
    splitHumps_eq_self fun _ other => after (underscore_mem_of_isBoundary other)
  rw [bare] at before form
  rw [bare'] at after form
  exact ⟨form.symm, before, after⟩

theorem IsBoundary.unique (single : name.count '_' ≤ 1)
    (form : (splitHumps cs).map smallLetter = name) (hump : IsBoundary cs i)
    (other : IsBoundary cs j) : j = i := by
  obtain ⟨parts, before, after⟩ := form_of_isBoundary single form hump
  obtain ⟨parts', -, -⟩ := form_of_isBoundary single form other
  obtain ⟨same, -, -⟩ :=
    (List.append_cons_inj_of_notMem before after).mp (parts.symm.trans parts')
  have length := congrArg List.length same
  have within := hump.lt_length
  have within' := other.lt_length
  rw [List.length_map, List.length_map, List.length_take,
    List.length_take] at length
  omega

theorem letters_append {first second : List Char}
    (letters : ∀ d ∈ first ++ '_' :: second, IsNameLetter d) :
    ∀ d ∈ first ++ second, IsNameLetter d := by
  intro d within
  refine letters d ?_
  rw [List.mem_append] at within ⊢
  exact within.imp_right (List.mem_cons_of_mem _)

/-- A text that spells a name has it as its form. -/
theorem Spells.form (letters : ∀ d ∈ name, IsNameLetter d) (h : Spells name cs) :
    (splitHumps cs).map smallLetter = name := by
  cases h with
  | flat bare written =>
    rw [splitHumps_eq_self bare]
    exact (map_smallLetter_eq_iff letters).mpr written
  | @humped first second i parts written place only =>
    obtain rfl := parts
    have before : ∀ k, ¬ IsBoundary (cs.take (i + 1)) k := by
      intro k hump
      have lt := hump.lt_length
      obtain rfl := (only k).mp hump.of_take
      rw [List.length_take] at lt
      omega
    have after : ∀ k, ¬ IsBoundary (cs.drop (i + 1)) k := by
      intro k hump
      have same := (only _).mp (isBoundary_drop.mp hump)
      omega
    have form : cs.map smallLetter = first ++ second :=
      (map_smallLetter_eq_iff (letters_append letters)).mpr written
    rw [splitHumps_of_isBoundary ((only i).mpr rfl), splitHumps_eq_self before,
      splitHumps_eq_self after, List.map_append, List.map_cons, List.map_take,
      List.map_drop, form, ← place, List.take_left, List.drop_left]
    rfl

/-- The texts with a form of one underscore at most are those that spell it. -/
theorem map_splitHumps_eq_iff (letters : ∀ d ∈ name, IsNameLetter d)
    (single : name.count '_' ≤ 1) :
    (splitHumps cs).map smallLetter = name ↔ Spells name cs := by
  refine ⟨fun form => ?_, Spells.form letters⟩
  by_cases bare : ∀ i, ¬ IsBoundary cs i
  · rw [splitHumps_eq_self bare] at form
    exact .flat bare ((map_smallLetter_eq_iff letters).mp form)
  obtain ⟨i, hump⟩ := not_forall_not.mp bare
  obtain ⟨parts, -, -⟩ := form_of_isBoundary single form hump
  refine .humped parts ?_ ?_ fun j =>
    ⟨hump.unique single form, fun same => same ▸ hump⟩
  · refine (map_smallLetter_eq_iff (letters_append (parts ▸ letters))).mp ?_
    rw [← List.map_append, List.take_append_drop]
  · rw [List.length_map, List.length_take, min_eq_left hump.lt_length.le]

end Spells

/-! ### Any table of small letters -/

/-- What is assumed of a table of small letters.  Characters of the plain
alphabet and the Kelvin sign have theirs, one by one; any other character
leaves something outside this alphabet, in whatever context it stands. -/
structure SmallLetters (lower : List Char → List Char) : Prop where
  plain : ∀ cs, (∀ c ∈ cs, c.toNat < 128 ∨ c = kelvinSign) →
    lower cs = cs.map smallLetter
  foreign : ∀ cs, ∀ c ∈ cs, ¬ (c.toNat < 128 ∨ c = kelvinSign) → ∃ d ∈ lower cs,
    ¬ d.toNat < 128

theorem smallLetters_map : SmallLetters (List.map smallLetter) where
  plain _ _ := rfl
  foreign cs c within other := by
    rw [not_or] at other
    have capital : ¬ c.isUpper := by
      rw [isUpper_iff_toNat]
      omega
    refine ⟨c, List.mem_map.mpr ⟨c, within, ?_⟩, other.1⟩
    rw [smallLetter_of_ne other.2, toLower_of_not_isUpper capital]

/-- Which texts are a name does not depend on the rest of the table. -/
theorem SmallLetters.eq_iff {lower : List Char → List Char}
    (table : SmallLetters lower) {name cs : List Char}
    (letters : ∀ d ∈ name, IsNameLetter d) : lower cs = name ↔
      cs.map smallLetter = name := by
  by_cases plain : ∀ c ∈ cs, c.toNat < 128 ∨ c = kelvinSign
  · rw [table.plain cs plain]
  · push Not at plain
    obtain ⟨c, within, outside, other⟩ := plain
    have different {lower : List Char → List Char}
        (table : SmallLetters lower) : lower cs ≠ name := by
      rintro rfl
      obtain ⟨d, left, far⟩ := table.foreign cs c within
        (by rw [not_or]; exact ⟨not_lt.mpr outside, other⟩)
      exact far (letters d left).plain
    exact iff_of_false (different table) (different smallLetters_map)

/-! ### Enumerations -/

namespace Named

/-- An enumeration whose members have different names, each in small letters
and with one underscore at most. -/
structure Plain (α : Type) [Named α] : Prop where
  complete : ∀ a : α, a ∈ (members : List α)
  distinct : ((members : List α).map name).Nodup
  letters : ∀ a ∈ (members : List α), ∀ d ∈ (name a).toList, IsNameLetter d
  single : ∀ a ∈ (members : List α), (name a).toList.count '_' ≤ 1

section Plain

variable {α : Type} [Named α] {a : α} {s : String}

theorem Plain.ofName?_eq_some_iff (plain : Plain α) : ofName? s = some a ↔
    name a = s := by
  have named {b : α} (h : ofName? s = some b) : name b = s := by
    have found := List.find?_some h
    exact eq_of_beq found
  refine ⟨named, fun same => ?_⟩
  cases h : (ofName? s : Option α) with
  | none =>
    have other := List.find?_eq_none.mp h a (plain.complete a)
    exact absurd (beq_iff_eq.mpr same) other
  | some b =>
    rw [List.inj_on_of_nodup_map plain.distinct (plain.complete b)
      (plain.complete a) ((named h).trans same.symm)]

theorem Plain.ofName?_ofList (plain : Plain α) {cs : List Char} :
    ofName? (String.ofList cs) = some a ↔ cs = (name a).toList := by
  rw [plain.ofName?_eq_some_iff, ← String.toList_inj, String.toList_ofList, eq_comm]

theorem ofValue_of_shown {v : Value} (shown : v.shown = .ok s) :
    (ofValue v : Except Fault α) =
      (ofName? (nameForm s)).elim (.error (.unknownName (noun α) s)) .ok := by
  have written : v.shown = pure s := shown
  rw [ofValue, written, pure_bind]
  cases (ofName? (nameForm s) : Option α) <;> rfl

theorem ofValue_eq_ok_iff {v : Value} (shown : v.shown = .ok s) :
    ofValue v = .ok a ↔ ofName? (nameForm s) = some a := by
  rw [ofValue_of_shown shown]
  cases (ofName? (nameForm s) : Option α) with
  | none => exact ⟨nofun, nofun⟩
  | some b => rw [Option.elim_some, Except.ok.injEq, Option.some.injEq]

/-- The values that are read as a member are those that spell its name. -/
theorem Plain.ofValue_iff (plain : Plain α) {v : Value} (shown : v.shown = .ok s) :
    ofValue v = .ok a ↔ Spells (name a).toList s.toList := by
  rw [ofValue_eq_ok_iff shown, nameForm, plain.ofName?_ofList,
    map_splitHumps_eq_iff (plain.letters a (plain.complete a))
      (plain.single a (plain.complete a))]

/-- Every other value that has a text is refused with one fault. -/
theorem Plain.ofValue_refused (plain : Plain α) {v : Value}
    (shown : v.shown = .ok s)
    (other : ∀ a : α, ¬ Spells (name a).toList s.toList) :
    (ofValue v : Except Fault α) = .error (.unknownName (noun α) s) := by
  rw [ofValue_of_shown shown]
  cases h : (ofName? (nameForm s) : Option α) with
  | none => rfl
  | some a =>
    have spells := (plain.ofValue_iff shown).mp ((ofValue_eq_ok_iff shown).mpr h)
    exact absurd spells (other a)

/-- What has no text names nothing. -/
theorem ofValue_of_holdsLong {v : Value} (long : v.HoldsLong) :
    (ofValue v : Except Fault α) = .error .illFormed := by
  rw [ofValue, v.shown_stopsIff.eq_error long]
  rfl

/-- A name spells itself. -/
theorem Plain.spells_name (plain : Plain α) (a : α) :
    Spells (name a).toList (name a).toList := by
  have letters := plain.letters a (plain.complete a)
  refine .flat ?_ (List.forall₂_same.mpr fun d _ => .inl rfl)
  rintro i ⟨c, d, -, next, -, capital⟩
  exact (letters d (List.mem_of_getElem? next)).not_isUpper capital

/-- The rest of a table of small letters does not matter. -/
theorem Plain.table_congr (plain : Plain α) {lower : List Char → List Char}
    (table : SmallLetters lower) (cs : List Char) :
    (ofName? (String.ofList (lower cs)) : Option α) =
      ofName? (String.ofList (cs.map smallLetter)) := by
  refine Option.ext fun a => ?_
  rw [plain.ofName?_ofList, plain.ofName?_ofList,
    table.eq_iff (plain.letters a (plain.complete a))]

end Plain

/-- How the members of an enumeration are read. -/
structure Spelled (α : Type) [Named α] : Prop where
  /-- A member is read from the texts that spell its name, and from no
  others. -/
  accepted : ∀ (v : Value) (s : String), v.shown = .ok s → ∀ a : α,
    ofValue v = .ok a ↔ Spells (name a).toList s.toList
  /-- Where the name has no underscore, these are the texts without humps that
  give it letter by letter. -/
  oneWord : ∀ (v : Value) (s : String), v.shown = .ok s → ∀ a : α,
    '_' ∉ (name a).toList →
      (ofValue v = .ok a ↔
        (∀ i, ¬ IsBoundary s.toList i) ∧
          List.Forall₂ StandsFor s.toList (name a).toList)
  refused : ∀ (v : Value) (s : String), v.shown = .ok s →
    (∀ a : α, ¬ Spells (name a).toList s.toList) →
      (ofValue v : Except Fault α) = .error (.unknownName (noun α) s)
  /-- A value that has no text is no name. -/
  unwritten : ∀ v : Value, v.HoldsLong →
    (ofValue v : Except Fault α) = .error .illFormed
  unique : ∀ (cs : List Char) (a b : α),
    Spells (name a).toList cs → Spells (name b).toList cs → a = b
  /-- The name itself may stand in the place of any of its spellings. -/
  canonical : ∀ (v : Value) (a : α), ofValue v = .ok a →
    (ofValue (.text (name a)) : Except Fault α) = ofValue v
  /-- Nothing changes with a fuller table of small letters. -/
  table : ∀ lower, SmallLetters lower → ∀ s : String,
    (ofName? (String.ofList (lower (splitHumps s.toList))) : Option α) =
      ofName? (nameForm s)

theorem Plain.spelled {α : Type} [Named α] (plain : Plain α) : Spelled α where
  accepted v s shown a := plain.ofValue_iff shown
  oneWord v s shown a bare := by
    rw [plain.ofValue_iff shown]
    constructor
    · rintro (⟨flat, letters⟩ | ⟨parts, -, -, -⟩)
      · exact ⟨flat, letters⟩
      · exact absurd (parts ▸ List.mem_append_right _ List.mem_cons_self) bare
    · rintro ⟨flat, letters⟩
      exact .flat flat letters
  refused v s shown other := plain.ofValue_refused shown other
  unwritten v long := ofValue_of_holdsLong long
  unique cs a b one other := by
    have read {c : α} (h : Spells (name c).toList cs) :
        ofValue (.text (String.ofList cs)) = .ok c := by
      refine (plain.ofValue_iff rfl).mpr ?_
      rwa [String.toList_ofList]
    exact Except.ok.inj ((read one).symm.trans (read other))
  canonical v a h :=
    ((plain.ofValue_iff rfl).mpr (plain.spells_name a)).trans h.symm
  table lower table s := plain.table_congr table _

theorem forall_letters {α : Type} [Named α]
    (all : (members : List α).all
      (fun a => (name a).toList.all fun d => decide (IsNameLetter d)) = true) :
    ∀ a ∈ (members : List α), ∀ d ∈ (name a).toList, IsNameLetter d := by
  intro a member d letter
  exact of_decide_eq_true
    (List.all_eq_true.mp (List.all_eq_true.mp all a member) d letter)

theorem plain_legSide : Plain LegSide :=
  ⟨by rintro ⟨⟩ <;> decide, by decide, forall_letters (by decide), by decide⟩

theorem plain_authority : Plain Authority :=
  ⟨by rintro ⟨⟩ <;> decide, by decide, forall_letters (by decide), by decide⟩

theorem plain_quoteSide : Plain QuoteSide :=
  ⟨by rintro ⟨⟩ <;> decide, by decide, forall_letters (by decide), by decide⟩

theorem plain_riskCategory : Plain RiskCategory :=
  ⟨by rintro ⟨⟩ <;> decide, by decide, forall_letters (by decide), by decide⟩

theorem plain_instrumentKind : Plain InstrumentKind :=
  ⟨by rintro ⟨⟩ <;> decide, by decide, forall_letters (by decide), by decide⟩

/-- **The spellings of names.**  The sides, the authorities, the risk
categories and the kinds of instruments are read from the texts that spell
their names and from no others: a text without humps that gives the name letter
by letter, in either case; or one with a single hump in the place of the
underscore, which is left out.  No text spells two names, and any of them may
be replaced by the name itself. -/
theorem ofValue_spelled :
    Spelled LegSide ∧ Spelled Authority ∧ Spelled QuoteSide ∧
      Spelled RiskCategory ∧ Spelled InstrumentKind :=
  ⟨plain_legSide.spelled, plain_authority.spelled, plain_quoteSide.spelled,
    plain_riskCategory.spelled, plain_instrumentKind.spelled⟩

end Named

namespace Sample

/-- A table of small letters that also has the capital with a dot, whose small
letter is followed by the dot. -/
def dottedLetters (cs : List Char) : List Char :=
  cs.flatMap fun c => if c = '\u0130' then ['i', '\u0307'] else [smallLetter c]

theorem dottedLetters_smallLetters : SmallLetters dottedLetters where
  plain cs plain := by
    rw [dottedLetters, List.map_eq_flatMap]
    refine List.flatMap_congr fun c within => if_neg ?_
    rintro rfl
    exact absurd (plain _ within) (by decide)
  foreign cs c within other := by
    by_cases dotted : c = '\u0130'
    · exact ⟨'\u0307', List.mem_flatMap.mpr ⟨c, within, by simp [dotted]⟩,
        by decide⟩
    · obtain ⟨d, small, far⟩ :=
        smallLetters_map.foreign [c] c List.mem_cons_self other
      refine ⟨d, List.mem_flatMap.mpr ⟨c, within, ?_⟩, far⟩
      rw [if_neg dotted]
      exact small

end Sample

/-- A hump among capitals and a Kelvin sign are read; a text with two humps is
refused, and so is a dotted capital. -/
theorem sample_spelled :
    Spells "very_high".toList "veryHIgh".toList ∧
      (Named.ofValue (.text "very_high") : Except Fault RiskCategory) =
        Named.ofValue (.text "veryHIgh") ∧
      Named.ofValue (.text "AS\u212a") = .ok QuoteSide.ask ∧
      (Named.ofValue (.text "vEryHigh") : Except Fault RiskCategory) =
        .error (.unknownName "risk category" "vEryHigh") ∧
      (Named.ofName?
        (String.ofList (Sample.dottedLetters (splitHumps "B\u0130D".toList))) :
        Option QuoteSide) =
        none := by
  obtain ⟨-, -, side, category, -⟩ := Named.ofValue_spelled
  have read : Named.ofValue (.text "veryHIgh") = .ok RiskCategory.veryHigh := by
    decide +kernel
  refine ⟨(category.accepted _ _ rfl _).mp read, category.canonical _ _ read,
    by decide +kernel, ?_, ?_⟩
  · refine category.refused _ _ rfl fun a spells => ?_
    have accepted := (category.accepted (.text "vEryHigh") _ rfl a).mpr spells
    revert accepted
    cases a <;> decide +kernel
  · rw [side.table _ Sample.dottedLetters_smallLetters]
    decide +kernel

end ScenarioMargin
