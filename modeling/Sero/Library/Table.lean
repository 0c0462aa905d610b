import Mathlib.Data.List.Find
import Mathlib.Data.List.Perm.Basic
import Mathlib.Data.List.Nodup
import Mathlib.Data.Set.Card

/-!
# Compact tables

Fixed-capacity tables are kept as a live prefix of an array: new entries go to
the end, the first entry matching a test is updated in place, and a removed
entry is overwritten by the last one.  Such a table denotes the finite map read
by `lookup`; removal reorders entries, so everything a client may rely on is
stated through membership, keys and `lookup`.
-/

namespace Sero.Library.Table

universe u v

variable {α : Type u} {κ : Type v}

/-- Remove the first entry passing the test by moving the last entry into its
place. -/
def swapRemove (test : α → Bool) : List α → List α
  | [] => []
  | entry :: rest =>
      if test entry then
        match rest.getLast? with
        | none => []
        | some last => last :: rest.dropLast
      else entry :: swapRemove test rest

/-- Update the first entry passing the test. -/
def updateFirst (test : α → Bool) (update : α → α) : List α → List α
  | [] => []
  | entry :: rest =>
      if test entry then update entry :: rest
      else entry :: updateFirst test update rest

/-- Update the first entry passing the test, or start a new one from `fresh`; fails
when that would exceed the capacity. -/
def upsert (test : α → Bool) (update : α → α) (fresh : α) (capacity : Nat)
    (table : List α) : Option (List α) :=
  if table.any test then some (updateFirst test update table)
  else if table.length < capacity then some (table ++ [update fresh])
  else none

/-- Removal by moving the last entry is removal up to the order of the rest. -/
theorem swapRemove_perm (test : α → Bool) (table : List α) :
    (swapRemove test table).Perm (table.eraseP test) := by
  induction table with
  | nil => simp [swapRemove]
  | cons entry rest ih =>
      by_cases passes : test entry = true
      · rw [swapRemove, if_pos passes, List.eraseP_cons_of_pos passes]
        rcases rest.eq_nil_or_concat with rfl | ⟨front, last, rfl⟩
        · simp
        · simp only [List.concat_eq_append, List.getLast?_append,
            List.getLast?_singleton, Option.some_or,
            List.dropLast_append_of_ne_nil (by simp : [last] ≠ []),
            List.dropLast_singleton, List.append_nil]
          exact (List.perm_append_singleton last front).symm
      · rw [swapRemove, if_neg passes, List.eraseP_cons_of_neg (by simpa using passes)]
        exact ih.cons entry

/-- Removal looks at its test on the members only. -/
theorem swapRemove_congr {left right : α → Bool} {table : List α}
    (agree : ∀ entry ∈ table, left entry = right entry) :
    swapRemove left table = swapRemove right table := by
  induction table with
  | nil => rfl
  | cons entry rest ih =>
      rw [swapRemove, swapRemove, agree entry (.head _),
        ih fun other member => agree other (.tail _ member)]

/-- Removing changes a table exactly if there is something to remove. -/
theorem swapRemove_eq_self_iff {test : α → Bool} {table : List α} :
    swapRemove test table = table ↔ table.find? test = none := by
  constructor
  · intro same
    rw [List.find?_eq_none]
    intro entry member passes
    have shorter := (swapRemove_perm test table).length_eq
    rw [same, List.length_eraseP_of_mem member passes] at shorter
    exact absurd shorter (Nat.ne_of_gt (Nat.sub_one_lt (List.length_pos_of_mem member).ne'))
  · intro absent
    induction table with
    | nil => rfl
    | cons entry rest ih =>
        rw [List.find?_cons] at absent
        split at absent
        · cases absent
        · next fails => rw [swapRemove, fails, if_neg Bool.false_ne_true, ih absent]

/-- Removing what has just been added at the end. -/
theorem swapRemove_append {test : α → Bool} {table : List α} {entry : α}
    (others : table.any test = false) (passes : test entry = true) :
    swapRemove test (table ++ [entry]) = table := by
  induction table with
  | nil => simp [swapRemove, passes]
  | cons first rest ih =>
      rw [List.any_cons, Bool.or_eq_false_iff] at others
      rw [List.cons_append, swapRemove, others.1, ih others.2]
      rfl

theorem swapRemove_length_le (test : α → Bool) (table : List α) :
    (swapRemove test table).length ≤ table.length := by
  rw [(swapRemove_perm test table).length_eq]
  exact List.length_eraseP_le

@[simp] theorem updateFirst_length (test : α → Bool) (update : α → α)
    (table : List α) : (updateFirst test update table).length = table.length := by
  induction table with
  | nil => rfl
  | cons entry rest ih =>
      rw [updateFirst]
      split <;> simp [ih]

/-- An update looks at its test on the members only. -/
theorem updateFirst_congr_test {left right : α → Bool} {table : List α}
    (agree : ∀ entry ∈ table, left entry = right entry) (update : α → α) :
    updateFirst left update table = updateFirst right update table := by
  induction table with
  | nil => rfl
  | cons entry rest ih =>
      rw [updateFirst, updateFirst, agree entry (.head _),
        ih fun other member => agree other (.tail _ member)]

theorem upsert_congr_test {left right : α → Bool} {table : List α}
    (agree : ∀ entry ∈ table, left entry = right entry) (update : α → α) (fresh : α)
    (capacity : Nat) :
    upsert left update fresh capacity table = upsert right update fresh capacity table := by
  have tests : table.any left = table.any right := by
    rw [Bool.eq_iff_iff, List.any_eq_true, List.any_eq_true]
    refine exists_congr fun entry => and_congr_right fun member => ?_
    rw [agree entry member]
  rw [upsert, upsert, tests, updateFirst_congr_test agree]

/-- An update matters only on what passes the test. -/
theorem updateFirst_congr {test : α → Bool} {left right : α → α}
    (agree : ∀ entry, test entry = true → left entry = right entry) (table : List α) :
    updateFirst test left table = updateFirst test right table := by
  induction table with
  | nil => rfl
  | cons entry rest ih =>
      rw [updateFirst, updateFirst, ih]
      split
      · next passes => rw [agree entry passes]
      · rfl

/-- Two updates of one entry are one, if it still passes the test after the first. -/
theorem updateFirst_updateFirst {test : α → Bool} {first : α → α}
    (keeps : ∀ entry, test (first entry) = test entry) (second : α → α) (table : List α) :
    updateFirst test second (updateFirst test first table) =
      updateFirst test (second ∘ first) table := by
  induction table with
  | nil => rfl
  | cons entry rest ih =>
      by_cases passes : test entry = true
      · rw [updateFirst, if_pos passes, updateFirst, if_pos ((keeps entry).trans passes),
          updateFirst, if_pos passes]
        rfl
      · rw [updateFirst, if_neg passes, updateFirst, if_neg passes, ih, updateFirst,
          if_neg passes]

/-- Whoever is in the table afterwards was in it before, as it is or before the update. -/
theorem mem_updateFirst {test : α → Bool} {update : α → α} {table : List α} {entry : α}
    (member : entry ∈ updateFirst test update table) :
    entry ∈ table ∨ ∃ earlier ∈ table, entry = update earlier := by
  induction table with
  | nil => exact .inl member
  | cons head rest ih =>
      rw [updateFirst] at member
      split at member
      · rcases List.mem_cons.mp member with rfl | inRest
        · exact .inr ⟨head, .head _, rfl⟩
        · exact .inl (.tail _ inRest)
      · rcases List.mem_cons.mp member with rfl | inRest
        · exact .inl (.head _)
        · rcases ih inRest with same | ⟨earlier, before, updated⟩
          · exact .inl (.tail _ same)
          · exact .inr ⟨earlier, .tail _ before, updated⟩

theorem upsert_length_le {test : α → Bool} {update : α → α} {fresh : α} {capacity : Nat}
    {table after : List α} (written : upsert test update fresh capacity table = some after)
    (bounded : table.length ≤ capacity) : after.length ≤ capacity := by
  rw [upsert] at written
  split at written
  · cases written
    rwa [updateFirst_length]
  · split at written
    · next room =>
        cases written
        rw [List.length_append, List.length_singleton]
        exact room
    · cases written

/-- An entry that fails the test stays in its place. -/
theorem getElem?_updateFirst {test : α → Bool} (update : α → α) {table : List α} {index : Nat}
    {entry : α} (here : table[index]? = some entry) (other : test entry = false) :
    (updateFirst test update table)[index]? = some entry := by
  induction table generalizing index with
  | nil => cases here
  | cons first rest ih =>
      rw [updateFirst]
      cases index with
      | zero =>
          cases here
          rw [if_neg (Bool.eq_false_iff.mp other)]
          rfl
      | succ index =>
          split
          · exact here
          · exact ih here

theorem getElem?_upsert {test : α → Bool} {update : α → α} {fresh : α} {capacity index : Nat}
    {table after : List α} {entry : α}
    (written : upsert test update fresh capacity table = some after)
    (here : table[index]? = some entry) (other : test entry = false) :
    after[index]? = some entry := by
  rw [upsert] at written
  split at written
  · cases written
    exact getElem?_updateFirst update here other
  · split at written
    · cases written
      rw [List.getElem?_append_left (List.getElem?_eq_some_iff.mp here).1]
      exact here
    · cases written

/-- No key is filed twice. -/
def Distinct (key : α → κ) (table : List α) : Prop :=
  (table.map key).Nodup

variable {key : α → κ}

theorem Distinct.swapRemove {table : List α} (distinct : Distinct key table)
    (test : α → Bool) : Distinct key (swapRemove test table) := by
  have erased : Distinct key (table.eraseP test) :=
    List.Nodup.sublist (List.eraseP_sublist.map key) distinct
  exact ((swapRemove_perm test table).map key).nodup_iff.mpr erased

theorem map_updateFirst (test : α → Bool) (update : α → α)
    (keeps : ∀ entry, test entry = true → key (update entry) = key entry)
    (table : List α) : (updateFirst test update table).map key = table.map key := by
  induction table with
  | nil => rfl
  | cons entry rest ih =>
      rw [updateFirst]
      split
      · next passes => simp [keeps entry passes]
      · simp [ih]

theorem Distinct.updateFirst {table : List α} (distinct : Distinct key table)
    (test : α → Bool) (update : α → α)
    (keeps : ∀ entry, test entry = true → key (update entry) = key entry) :
    Distinct key (updateFirst test update table) := by
  rw [Distinct, map_updateFirst test update keeps]
  exact distinct

/-- Writing at an index keeps the keys if what is there keeps its key. -/
theorem map_modify_at {update : α → α} {table : List α} {index : Nat}
    (keeps : ∀ entry, table[index]? = some entry → key (update entry) = key entry) :
    (table.modify index update).map key = table.map key := by
  apply List.ext_getElem?
  intro position
  simp only [List.getElem?_map, List.getElem?_modify]
  cases here : table[position]? with
  | none => rfl
  | some entry =>
      split
      · next same => simp [keeps entry (by rw [same, here])]
      · rfl

theorem map_modify {update : α → α} (keeps : ∀ entry, key (update entry) = key entry)
    (table : List α) (index : Nat) :
    (table.modify index update).map key = table.map key :=
  map_modify_at fun entry _ => keeps entry

theorem Distinct.modify {table : List α} (distinct : Distinct key table) {update : α → α}
    (keeps : ∀ entry, key (update entry) = key entry) (index : Nat) :
    Distinct key (table.modify index update) := by
  rw [Distinct, map_modify keeps]
  exact distinct

/-- A loop that writes index after index has written every entry it got to. -/
theorem getElem?_foldl_modify (update : α → α) (table : List α) (turns position : Nat) :
    ((List.range turns).foldl (fun table index => table.modify index update) table)[position]? =
      if position < turns then table[position]?.map update else table[position]? := by
  induction turns with
  | zero => simp
  | succ turns ih =>
      rw [List.range_succ, List.foldl_append, List.foldl_cons, List.foldl_nil,
        List.getElem?_modify, ih]
      rcases Nat.lt_trichotomy position turns with before | rfl | after
      · simp [before, Nat.ne_of_gt before, Nat.lt_succ_of_lt before]
      · simp
      · simp [Nat.not_lt_of_gt after, Nat.ne_of_lt after, Nat.not_lt.mpr after]

/-- A loop over the whole array writes every entry. -/
theorem foldl_modify (update : α → α) {table : List α} {turns : Nat}
    (covers : table.length ≤ turns) :
    (List.range turns).foldl (fun table index => table.modify index update) table =
      table.map update := by
  apply List.ext_getElem?
  intro position
  rw [getElem?_foldl_modify, List.getElem?_map]
  split
  · rfl
  · next beyond =>
      rw [List.getElem?_eq_none (by omega)]
      rfl

/-- As many others as there are slots are live. -/
def Occupied (live : κ → Prop) (capacity : Nat) (wanted : κ) : Prop :=
  ∃ others : List κ, others.Nodup ∧ others.length = capacity ∧
    ∀ other ∈ others, other ≠ wanted ∧ live other

theorem Occupied.exists_live {live : κ → Prop} {capacity : Nat} {wanted : κ}
    (occupied : Occupied live capacity wanted) (positive : 0 < capacity) :
    ∃ other, live other := by
  obtain ⟨others, -, length, each⟩ := occupied
  obtain ⟨other, member⟩ := List.exists_mem_of_length_pos (length ▸ positive)
  exact ⟨other, (each other member).2⟩

/-- A table in which as many keys are filed as it has entries holds no others. -/
theorem mem_of_length_le {keys : List κ} {table : List α} (nodup : keys.Nodup)
    (enough : table.length ≤ keys.length) (filed : ∀ wanted ∈ keys, wanted ∈ table.map key) :
    ∀ entry ∈ table, key entry ∈ keys := by
  have short : (table.map key).length ≤ keys.length := List.length_map key ▸ enough
  have same : keys.Perm (table.map key) := (nodup.subperm filed).perm_of_length_le short
  intro entry member
  exact same.mem_iff.mpr (List.mem_map_of_mem member)

section Lookup

variable [BEq κ]

/-- The first entry filed under a key. -/
def lookup (key : α → κ) (wanted : κ) (table : List α) : Option α :=
  table.find? fun entry => key entry == wanted

theorem lookup_mem {wanted : κ} {table : List α} {entry : α}
    (found : lookup key wanted table = some entry) : entry ∈ table :=
  List.mem_of_find?_eq_some found

/-- Rewriting every entry under its key. -/
theorem lookup_map {update : α → α} (keeps : ∀ entry, key (update entry) = key entry)
    (wanted : κ) (table : List α) :
    lookup key wanted (table.map update) = (lookup key wanted table).map update := by
  rw [lookup, List.find?_map]
  apply congrArg (Option.map update)
  apply List.find?_congr
  intro entry _
  exact congrArg (· == wanted) (keeps entry)

variable [LawfulBEq κ]

theorem lookup_key {wanted : κ} {table : List α} {entry : α}
    (found : lookup key wanted table = some entry) : key entry = wanted := by
  simpa using List.find?_some found

theorem lookup_eq_none {wanted : κ} {table : List α} :
    lookup key wanted table = none ↔ wanted ∉ table.map key := by
  simp only [lookup, List.find?_eq_none, beq_iff_eq, List.mem_map, not_exists,
    not_and]

/-- In a table without repeated keys every member is what its key finds. -/
theorem Distinct.lookup_of_mem {table : List α} {entry : α}
    (distinct : Distinct key table) (membership : entry ∈ table) :
    lookup key (key entry) table = some entry := by
  induction table with
  | nil => simp at membership
  | cons head rest ih =>
      obtain ⟨fresh, tailDistinct⟩ := List.pairwise_cons.mp distinct
      rcases List.mem_cons.mp membership with rfl | inTail
      · simp [lookup]
      · have different : key head ≠ key entry :=
          fresh (key entry) (List.mem_map_of_mem inTail)
        have step : lookup key (key entry) (head :: rest) =
            lookup key (key entry) rest := by
          simp [lookup, different]
        rw [step]
        exact ih tailDistinct inTail

theorem Distinct.lookup_iff {table : List α} {entry : α} {wanted : κ}
    (distinct : Distinct key table) :
    lookup key wanted table = some entry ↔ entry ∈ table ∧ key entry = wanted := by
  constructor
  · exact fun found => ⟨lookup_mem found, lookup_key found⟩
  · rintro ⟨membership, rfl⟩
    exact distinct.lookup_of_mem membership

/-- Under distinct keys a test that only one key can pass is passed at most once. -/
theorem Distinct.countP_eq {table : List α} (distinct : Distinct key table) {test : α → Bool}
    {wanted : κ} (only : ∀ entry ∈ table, test entry = true → key entry = wanted) :
    table.countP test = ((lookup key wanted table).any test).toNat := by
  induction table with
  | nil => rfl
  | cons entry rest ih =>
      obtain ⟨fresh, tailDistinct⟩ := List.pairwise_cons.mp distinct
      have others := ih tailDistinct fun other member => only other (.tail _ member)
      by_cases here : key entry = wanted
      · have none : rest.countP test = 0 := by
          rw [List.countP_eq_zero]
          intro other member passes
          have same := only other (.tail _ member) passes
          exact fresh (key other) (List.mem_map_of_mem member) (here.trans same.symm)
        have found : lookup key wanted (entry :: rest) = some entry :=
          List.find?_cons_of_pos (beq_iff_eq.mpr here)
        rw [List.countP_cons, none, found, Option.any_some]
        cases test entry <;> rfl
      · have fails : ¬test entry = true := fun passes => here (only entry (.head _) passes)
        have skipped : lookup key wanted (entry :: rest) = lookup key wanted rest :=
          List.find?_cons_of_neg (by simpa using here)
        rw [List.countP_cons, if_neg fails, skipped, others, Nat.add_zero]

/-- `lookup` cannot see the order of a table without repeated keys. -/
theorem Distinct.lookup_perm {left right : List α} (distinct : Distinct key left)
    (reordered : left.Perm right) (wanted : κ) :
    lookup key wanted left = lookup key wanted right := by
  have rightDistinct : Distinct key right :=
    (reordered.map key).nodup_iff.mp distinct
  ext entry
  rw [distinct.lookup_iff, rightDistinct.lookup_iff, reordered.mem_iff]

/-- Dropping the entries that fail a test drops them under their keys. -/
theorem Distinct.lookup_filter {table : List α} (distinct : Distinct key table)
    (test : α → Bool) (wanted : κ) :
    lookup key wanted (table.filter test) = (lookup key wanted table).filter test := by
  have filtered : Distinct key (table.filter test) :=
    distinct.sublist (List.filter_sublist.map key)
  ext entry
  rw [filtered.lookup_iff, List.mem_filter, Option.filter_eq_some_iff, distinct.lookup_iff]
  exact and_right_comm

variable [DecidableEq κ]

/-- A table without repeated keys has an entry for each key it knows. -/
theorem Distinct.ncard_lookup {table : List α} (distinct : Distinct key table) :
    {wanted | (lookup key wanted table).isSome = true}.ncard = table.length := by
  have known : {wanted | (lookup key wanted table).isSome = true} =
      ((table.map key).toFinset : Set κ) := by
    ext wanted
    rw [Set.mem_ofPred_eq, Option.isSome_iff_ne_none, ne_eq, lookup_eq_none, not_not,
      Finset.mem_coe, List.mem_toFinset]
  rw [known, Set.ncard_coe_finset, List.toFinset_card_of_nodup distinct, List.length_map]

/-- Removing the entry of one key forgets that key and no other. -/
theorem Distinct.lookup_swapRemove {table : List α}
    (distinct : Distinct key table) (removed wanted : κ) :
    lookup key wanted (Table.swapRemove (fun entry => key entry == removed) table) =
      if wanted = removed then none else lookup key wanted table := by
  have afterDistinct := distinct.swapRemove fun entry => key entry == removed
  rw [afterDistinct.lookup_perm (swapRemove_perm _ _)]
  induction table with
  | nil => simp [lookup]
  | cons head rest ih =>
      obtain ⟨fresh, tail⟩ := List.pairwise_cons.mp distinct
      have tailDistinct : Distinct key rest := tail
      by_cases headRemoved : key head = removed
      · subst headRemoved
        rw [List.eraseP_cons_of_pos (by simp)]
        split
        · next equal =>
            subst equal
            rw [lookup_eq_none]
            exact fun member => fresh _ member rfl
        · next different =>
            simp [lookup, Ne.symm different]
      · rw [List.eraseP_cons_of_neg (by simpa using headRemoved)]
        have tail := ih tailDistinct (tailDistinct.swapRemove _)
        by_cases headWanted : key head = wanted
        · subst headWanted
          simp [lookup, headRemoved]
        · simpa [lookup, headWanted] using tail

variable (key) in
/-- An in-place update of the entry of one key is seen under that key only. -/
theorem lookup_updateFirst {changed : κ} {update : α → α}
    (keeps : ∀ entry, key entry = changed → key (update entry) = changed) (wanted : κ)
    (table : List α) :
    lookup key wanted (updateFirst (fun entry => key entry == changed) update table) =
      if wanted = changed then (lookup key wanted table).map update
      else lookup key wanted table := by
  induction table with
  | nil => simp [updateFirst, lookup]
  | cons entry rest ih =>
      by_cases here : key entry = changed
      · have kept := keeps entry here
        by_cases equal : wanted = changed
        · subst equal
          simp [updateFirst, lookup, here, kept]
        · simp [updateFirst, lookup, here, kept, equal, Ne.symm equal]
      · by_cases wantedHere : key entry = wanted
        · subst wantedHere
          simp [updateFirst, lookup, here]
        · simpa [updateFirst, lookup, here, wantedHere] using ih

omit [DecidableEq κ] in
/-- What a key finds after a write at some index is what it found before, written or
not. -/
theorem lookup_modify {update : α → α} (keeps : ∀ entry, key (update entry) = key entry)
    (wanted : κ) (table : List α) (index : Nat) :
    lookup key wanted (table.modify index update) = lookup key wanted table ∨
      lookup key wanted (table.modify index update) =
        (lookup key wanted table).map update := by
  induction table generalizing index with
  | nil => simp [lookup]
  | cons entry rest ih =>
      by_cases here : key entry = wanted
      · cases index with
        | zero => exact .inr (by simp [lookup, keeps, here])
        | succ index => exact .inl (by simp [lookup, here])
      · have skip : ∀ (head : α) (tail : List α), key head = key entry →
            lookup key wanted (head :: tail) = lookup key wanted tail := by
          intro head tail same
          simp [lookup, same, here]
        cases index with
        | zero =>
            left
            rw [List.modify_zero_cons, skip _ _ (keeps entry), skip _ _ rfl]
        | succ index =>
            rw [List.modify_succ_cons, skip _ _ rfl, skip _ _ rfl]
            exact ih index

omit [DecidableEq κ] in
/-- A write at the index of another key goes unseen. -/
theorem lookup_modify_of_ne {update : α → α} (keeps : ∀ entry, key (update entry) = key entry)
    {wanted : κ} {table : List α} {index : Nat} {entry : α} (here : table[index]? = some entry)
    (other : key entry ≠ wanted) :
    lookup key wanted (table.modify index update) = lookup key wanted table := by
  induction table generalizing index with
  | nil => simp
  | cons head rest ih =>
      cases index with
      | zero =>
          have same : head = entry := by simpa using here
          subst same
          simp [lookup, keeps, other]
      | succ index =>
          have later := ih (by simpa using here)
          by_cases first : key head = wanted
          · simp [lookup, first]
          · simpa [lookup, first] using later

variable (key) in
theorem lookup_append_of_fresh (table : List α) (entry : α) (wanted : κ)
    (fresh : lookup key (key entry) table = none) :
    lookup key wanted (table ++ [entry]) =
      if wanted = key entry then some entry else lookup key wanted table := by
  unfold lookup at *
  rw [List.find?_append]
  by_cases equal : wanted = key entry
  · subst equal
    rw [fresh]
    simp
  · simp [equal, Ne.symm equal]

omit [DecidableEq κ] in
theorem Distinct.append_of_fresh {table : List α} (distinct : Distinct key table)
    {entry : α} (fresh : lookup key (key entry) table = none) :
    Distinct key (table ++ [entry]) := by
  have absent := lookup_eq_none.mp fresh
  rw [Distinct, List.map_append, List.map_singleton, ← List.concat_eq_append]
  exact List.Nodup.concat absent distinct

theorem find?_updateFirst {test : α → Bool} {update : α → α}
    (passes : ∀ entry, test (update entry) = true) (table : List α) :
    (updateFirst test update table).find? test = (table.find? test).map update := by
  induction table with
  | nil => rfl
  | cons entry rest ih =>
      cases here : test entry with
      | true => simp [updateFirst, here, passes]
      | false => simpa [updateFirst, here] using ih

/-- A write that succeeds is what the test finds afterwards. -/
theorem find?_upsert {test : α → Bool} {update : α → α} {fresh : α} {capacity : Nat}
    {table after : List α} (passes : ∀ entry, test (update entry) = true)
    (written : upsert test update fresh capacity table = some after) :
    after.find? test = some (update ((table.find? test).getD fresh)) := by
  rw [upsert, ← List.isSome_find?] at written
  split at written
  · next present =>
      cases written
      obtain ⟨entry, found⟩ := Option.isSome_iff_exists.mp present
      rw [find?_updateFirst passes, found]
      rfl
  · next absent =>
      rw [Option.not_isSome_iff_eq_none] at absent
      split at written
      · cases written
        rw [List.find?_append, absent, List.find?_singleton, passes]
        rfl
      · cases written

/-! ## Where members come from -/

/-- The entry that is updated is the one the test finds. -/
theorem mem_updateFirst_find {test : α → Bool} {update : α → α} {table : List α} {entry : α}
    (member : entry ∈ updateFirst test update table) :
    entry ∈ table ∨ ∃ earlier, table.find? test = some earlier ∧ entry = update earlier := by
  induction table with
  | nil => exact .inl member
  | cons head rest ih =>
      rw [updateFirst] at member
      split at member
      · next passes =>
          rcases List.mem_cons.mp member with rfl | inRest
          · exact .inr ⟨head, List.find?_cons_of_pos passes, rfl⟩
          · exact .inl (.tail _ inRest)
      · next fails =>
          rcases List.mem_cons.mp member with rfl | inRest
          · exact .inl (.head _)
          · rcases ih inRest with same | ⟨earlier, found, updated⟩
            · exact .inl (.tail _ same)
            · exact .inr ⟨earlier, (List.find?_cons_of_neg fails).trans found, updated⟩

theorem mem_upsert {test : α → Bool} {update : α → α} {fresh : α} {capacity : Nat}
    {table after : List α} (written : upsert test update fresh capacity table = some after)
    {entry : α} (member : entry ∈ after) :
    entry ∈ table ∨ entry = update ((table.find? test).getD fresh) := by
  rw [upsert] at written
  split at written
  · cases written
    rcases mem_updateFirst_find member with same | ⟨earlier, found, updated⟩
    · exact .inl same
    · exact .inr (by rw [found]; exact updated)
  · next absent =>
      split at written
      · cases written
        rcases List.mem_append.mp member with same | new
        · exact .inl same
        · have missing : table.find? test = none := by
            rw [List.find?_eq_none]
            simpa using absent
          rw [missing]
          exact .inr (List.mem_singleton.mp new)
      · cases written

theorem mem_of_mem_swapRemove {test : α → Bool} {table : List α} {entry : α}
    (member : entry ∈ swapRemove test table) : entry ∈ table :=
  List.mem_of_mem_eraseP ((swapRemove_perm test table).mem_iff.mp member)

theorem mem_modify {update : α → α} {index : Nat} {table : List α} {entry : α}
    (member : entry ∈ table.modify index update) :
    entry ∈ table ∨ ∃ earlier ∈ table, entry = update earlier := by
  induction table generalizing index with
  | nil => simp at member
  | cons head rest ih =>
      cases index with
      | zero =>
          rw [List.modify_zero_cons] at member
          rcases List.mem_cons.mp member with rfl | inRest
          · exact .inr ⟨head, .head _, rfl⟩
          · exact .inl (.tail _ inRest)
      | succ index =>
          rw [List.modify_succ_cons] at member
          rcases List.mem_cons.mp member with rfl | inRest
          · exact .inl (.head _)
          · rcases ih inRest with same | ⟨earlier, before, updated⟩
            · exact .inl (.tail _ same)
            · exact .inr ⟨earlier, .tail _ before, updated⟩

section Upsert

variable {changed : κ} {update : α → α} {fresh : α} {capacity : Nat}
variable {table after : List α}

omit [LawfulBEq κ] [DecidableEq κ] in
theorem any_eq_isSome (wanted : κ) (table : List α) :
    (table.any fun entry => key entry == wanted) = (lookup key wanted table).isSome := by
  rw [lookup, List.isSome_find?]

omit [LawfulBEq κ] [DecidableEq κ] in
/-- An entry that is already there is always written. -/
theorem upsert_of_present (present : (lookup key changed table).isSome = true) :
    upsert (fun entry => key entry == changed) update fresh capacity table =
      some (updateFirst (fun entry => key entry == changed) update table) := by
  rw [upsert, any_eq_isSome, if_pos present]

omit [LawfulBEq κ] [DecidableEq κ] in
/-- A write is refused when the table is full and has no entry of the key. -/
theorem upsert_eq_none_iff :
    upsert (fun entry => key entry == changed) update fresh capacity table = none ↔
      lookup key changed table = none ∧ capacity ≤ table.length := by
  rw [upsert, any_eq_isSome]
  cases looked : lookup key changed table with
  | none => simp
  | some entry => simp

/-- A write that succeeds is seen under its key, and under no other. -/
theorem lookup_upsert (files : ∀ entry, key (update entry) = changed)
    (written : upsert (fun entry => key entry == changed) update fresh capacity table =
      some after) (wanted : κ) :
    lookup key wanted after =
      if wanted = changed then some (update ((lookup key changed table).getD fresh))
      else lookup key wanted table := by
  rw [upsert, any_eq_isSome] at written
  split at written
  · next present =>
      cases written
      rw [lookup_updateFirst key fun entry _ => files entry]
      split
      · next same =>
          subst same
          obtain ⟨entry, found⟩ := Option.isSome_iff_exists.mp present
          rw [found]
          rfl
      · rfl
  · next absent =>
      have missing : lookup key changed table = none := by simpa using absent
      split at written
      · cases written
        rw [lookup_append_of_fresh key table (update fresh) wanted (by rw [files]; exact missing),
          files, missing]
        rfl
      · cases written

omit [DecidableEq κ] in
theorem Distinct.upsert (distinct : Distinct key table)
    (files : ∀ entry, key (update entry) = changed)
    (written : Table.upsert (fun entry => key entry == changed) update fresh capacity table =
      some after) : Distinct key after := by
  rw [Table.upsert, any_eq_isSome] at written
  split at written
  · cases written
    apply distinct.updateFirst
    intro entry passes
    rw [files, eq_of_beq passes]
  · next absent =>
      split at written
      · cases written
        apply distinct.append_of_fresh
        rw [files]
        simpa using absent
      · cases written

omit [DecidableEq κ] in
/-- A write is refused only when all slots are taken by live entries, exactly if its key has
a slot, one is free, or none is kept by a dead entry. -/
theorem Distinct.refused_iff (distinct : Distinct key table) (fits : table.length ≤ capacity)
    {live : κ → Prop} {test : α → Bool}
    (lives : ∀ wanted, live wanted ↔ (lookup key wanted table).any test = true) :
    (Table.upsert (fun entry => key entry == changed) update fresh capacity table = none →
        Occupied live capacity changed) ↔
      (lookup key changed table).isSome = true ∨ table.length < capacity ∨
        ∀ entry ∈ table, test entry = true := by
  have tested : ∀ entry ∈ table, live (key entry) ↔ test entry = true := by
    intro entry member
    rw [lives, distinct.lookup_of_mem member, Option.any_some]
  constructor
  · intro honest
    cases present : lookup key changed table with
    | some => exact .inl rfl
    | none =>
        rcases Nat.lt_or_ge table.length capacity with room | full
        · exact .inr (.inl room)
        · obtain ⟨others, nodup, length, each⟩ := honest (upsert_eq_none_iff.mpr ⟨present, full⟩)
          have filed : ∀ other ∈ others, other ∈ table.map key := by
            intro other member
            apply Classical.byContradiction
            intro absent
            have held := (lives other).mp (each other member).2
            rw [lookup_eq_none.mpr absent] at held
            cases held
          have all := mem_of_length_le nodup (fits.trans_eq length.symm) filed
          right
          right
          intro entry member
          exact (tested entry member).mp (each _ (all entry member)).2
  · intro condition refused
    obtain ⟨absent, full⟩ := upsert_eq_none_iff.mp refused
    rcases condition with present | room | all
    · rw [absent] at present
      cases present
    · exact absurd room (Nat.not_lt.mpr full)
    · refine ⟨table.map key, distinct, ?_, ?_⟩
      · rw [List.length_map]
        exact Nat.le_antisymm fits full
      · intro other member
        obtain ⟨entry, inTable, rfl⟩ := List.mem_map.mp member
        constructor
        · intro same
          exact lookup_eq_none.mp absent (same ▸ member)
        · exact (tested entry inTable).mpr (all entry inTable)

end Upsert

end Lookup

end Sero.Library.Table
