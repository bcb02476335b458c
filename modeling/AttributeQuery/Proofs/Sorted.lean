import Mathlib
import AttributeQuery.Sorted

/-!
# Sorted lists

Sorting and removing repetitions keep the elements of a list. Elements that are
inserted one after the other end up in ascending order. A list in strictly
ascending order is determined by its elements, so what is sorted does not depend
on the order given.
-/

namespace AttributeQuery.Sorted

theorem mem_insertDistinct {text other : String} {texts : List String} :
    other ∈ insertDistinct text texts ↔ other = text ∨ other ∈ texts := by
  induction texts with
  | nil => simp [insertDistinct]
  | cons head rest ih =>
      unfold insertDistinct
      split
      · simp only [List.mem_cons, ih]
        tauto
      · split
        next equal => simp [equal]
        · simp

/-- The distinct texts of a list are those of the list. -/
@[simp] theorem mem_distinct {text : String} {texts : List String} :
    text ∈ distinct texts ↔ text ∈ texts := by
  induction texts with
  | nil => simp [distinct]
  | cons head rest ih =>
      rw [show distinct (head :: rest) =
        insertDistinct head (distinct rest) from rfl,
        mem_insertDistinct, ih, List.mem_cons]

/-- Inserting an element adds it and moves the others only. -/
theorem insertBy_perm {α : Type} (key : α → String) (value : α)
    (values : List α) :
    (insertBy key value values).Perm (value :: values) := by
  induction values with
  | nil => exact .refl _
  | cons head rest ih =>
      unfold insertBy
      split
      · exact (ih.cons head).trans (.swap value head rest)
      · exact .refl _

section Insertion

variable {α : Type} {key : α → String} {values : List α}

theorem insertBy_pairwise (sorted : values.Pairwise (key · ≤ key ·))
    (value : α) :
    (insertBy key value values).Pairwise (key · ≤ key ·) := by
  induction values with
  | nil => simp [insertBy]
  | cons head rest ih =>
      obtain ⟨least, sortedRest⟩ := List.pairwise_cons.mp sorted
      unfold insertBy
      split
      next isLess =>
        refine List.pairwise_cons.mpr ⟨fun other member => ?_, ih sortedRest⟩
        rcases List.mem_cons.mp
            ((insertBy_perm key value rest).subset member) with
          rfl | isLater
        · exact isLess.le
        · exact least other isLater
      next notLess =>
        have isFirst : key value ≤ key head := not_lt.mp notLess
        refine List.pairwise_cons.mpr ⟨fun other member => ?_, sorted⟩
        rcases List.mem_cons.mp member with rfl | isLater
        · exact isFirst
        · exact isFirst.trans (least other isLater)

/-- Insert elements one after the other. -/
def insertAll (key : α → String) (given values : List α) : List α :=
  given.foldl (fun values value => insertBy key value values) values

theorem insertAll_perm (key : α → String) (given values : List α) :
    (insertAll key given values).Perm (given ++ values) := by
  induction given generalizing values with
  | nil => exact .refl _
  | cons value rest ih =>
      have inserted : (rest ++ insertBy key value values).Perm
          (rest ++ value :: values) :=
        (insertBy_perm key value values).append_left rest
      exact ((ih _).trans inserted).trans List.perm_middle

theorem insertAll_pairwise (sorted : values.Pairwise (key · ≤ key ·))
    (given : List α) :
    (insertAll key given values).Pairwise (key · ≤ key ·) := by
  induction given generalizing values with
  | nil => exact sorted
  | cons value rest ih => exact ih (insertBy_pairwise sorted value)

end Insertion

/-! ## Strictly ascending lists -/

section Strict

variable {α : Type} {key : α → String} {values others : List α}

/-- Lists in strictly ascending order with the same elements are equal. -/
theorem eq_of_mem_iff (key : α → String)
    (sorted : values.Pairwise (key · < key ·))
    (sortedOthers : others.Pairwise (key · < key ·))
    (same : ∀ value, value ∈ values ↔ value ∈ others) : values = others := by
  have distinct {list : List α} (isSorted : list.Pairwise (key · < key ·)) :
      list.Nodup :=
    isSorted.imp fun below equal => below.ne (congrArg key equal)
  have isPerm : values.Perm others :=
    (List.perm_ext_iff_of_nodup (distinct sorted) (distinct sortedOthers)).mpr
      same
  exact isPerm.eq_of_pairwise
    (fun _ _ _ _ below above => absurd above below.asymm) sorted sortedOthers

/-- Elements that are inserted with distinct keys end up in strictly ascending
order. -/
theorem insertAll_strict (distinct : (values.map key).Nodup) :
    (insertAll key values []).Pairwise (key · < key ·) := by
  have isPerm : (insertAll key values []).Perm values := by
    simpa using insertAll_perm key values []
  have differ : (insertAll key values []).Pairwise (key · ≠ key ·) :=
    List.pairwise_map.mp ((isPerm.map key).nodup_iff.mpr distinct)
  exact ((insertAll_pairwise .nil values).and differ).imp
      fun ⟨below, differs⟩ =>
    lt_of_le_of_ne below differs

/-- Elements with distinct keys are inserted in any order to the same end. -/
theorem insertAll_congr (distinct : (values.map key).Nodup)
    (isPerm : values.Perm others) :
    insertAll key values [] = insertAll key others [] := by
  have distinctOthers : (others.map key).Nodup :=
    (isPerm.map key).nodup_iff.mp distinct
  have members (list : List α) {value : α} : value ∈ insertAll key list [] ↔
      value ∈ list := by
    simpa using (insertAll_perm key list []).mem_iff (a := value)
  refine eq_of_mem_iff key (insertAll_strict distinct)
    (insertAll_strict distinctOthers) fun value => ?_
  rw [members, members, isPerm.mem_iff]

end Strict

/-! ## Distinct texts -/

theorem insertDistinct_pairwise {texts : List String}
    (sorted : texts.Pairwise (· < ·)) (text : String) :
    (insertDistinct text texts).Pairwise (· < ·) := by
  induction texts with
  | nil => simp [insertDistinct]
  | cons head rest ih =>
      obtain ⟨least, sortedRest⟩ := List.pairwise_cons.mp sorted
      unfold insertDistinct
      split
      next isLess =>
        refine List.pairwise_cons.mpr ⟨fun other member => ?_, ih sortedRest⟩
        rcases mem_insertDistinct.mp member with rfl | isLater
        · exact isLess
        · exact least other isLater
      next notLess =>
        split
        next => exact sorted
        next differs =>
          have isFirst : text < head :=
            lt_of_le_of_ne (not_lt.mp notLess) (Ne.symm differs)
          refine List.pairwise_cons.mpr ⟨fun other member => ?_, sorted⟩
          rcases List.mem_cons.mp member with rfl | isLater
          · exact isFirst
          · exact isFirst.trans (least other isLater)

theorem distinct_pairwise (texts : List String) :
    (distinct texts).Pairwise (· < ·) := by
  induction texts with
  | nil => exact .nil
  | cons text rest ih => exact insertDistinct_pairwise ih text

/-- Which texts there are determines the distinct ones. -/
theorem distinct_congr {texts others : List String}
    (same : ∀ text, text ∈ texts ↔ text ∈ others) :
    distinct texts = distinct others :=
  eq_of_mem_iff id (distinct_pairwise texts) (distinct_pairwise others)
      fun text => by
    rw [mem_distinct, mem_distinct, same]

/-! ## Entries -/

section Entries

variable {α : Type} {entries others : List (String × α)}

theorem mem_of_mem_insertEntry {key : String} {value : α} {entry : String × α}
    (member : entry ∈ insertEntry key value entries) :
    entry.1 = key ∨ entry ∈ entries := by
  induction entries with
  | nil =>
      obtain rfl := List.mem_singleton.mp member
      exact .inl rfl
  | cons head rest ih =>
      unfold insertEntry at member
      split at member
      next =>
        rcases List.mem_cons.mp member with rfl | isLater
        · exact .inr List.mem_cons_self
        · exact (ih isLater).imp_right (List.mem_cons_of_mem head)
      next =>
        split at member
        next =>
          rcases List.mem_cons.mp member with rfl | isLater
          · exact .inl rfl
          · exact .inr (List.mem_cons_of_mem head isLater)
        next =>
          rcases List.mem_cons.mp member with rfl | isOld
          · exact .inl rfl
          · exact .inr isOld

theorem mem_insertEntry_self (key : String) (value : α)
    (entries : List (String × α)) :
    (key, value) ∈ insertEntry key value entries := by
  induction entries with
  | nil => exact List.mem_cons_self
  | cons head rest ih =>
      unfold insertEntry
      split
      · exact List.mem_cons_of_mem _ ih
      · split <;> exact List.mem_cons_self

/-- Entries with other keys stay. -/
theorem mem_insertEntry_of_ne {key : String} {entry : String × α}
    (differs : entry.1 ≠ key) (member : entry ∈ entries) (value : α) :
    entry ∈ insertEntry key value entries := by
  induction entries with
  | nil => cases member
  | cons head rest ih =>
      unfold insertEntry
      split
      next =>
        rcases List.mem_cons.mp member with rfl | isLater
        · exact List.mem_cons_self
        · exact List.mem_cons_of_mem _ (ih isLater)
      next =>
        split
        next isKey =>
          rcases List.mem_cons.mp member with rfl | isLater
          · exact absurd isKey differs
          · exact List.mem_cons_of_mem _ isLater
        next => exact List.mem_cons_of_mem _ member

/-- The last entry given with a key stays. -/
theorem mem_ofEntries_of_last (before : List (String × α)) {entry : String × α}
    (isLast : ∀ later ∈ entries, later.1 ≠ entry.1) :
    entry ∈ ofEntries (before ++ entry :: entries) := by
  rw [ofEntries, List.foldl_append, List.foldl_cons]
  have inserted := mem_insertEntry_self entry.1 entry.2
    (before.foldl (fun sorted entry => insertEntry entry.1 entry.2 sorted) [])
  generalize insertEntry entry.1 entry.2 _ = start at inserted ⊢
  induction entries generalizing start with
  | nil => exact inserted
  | cons later rest ih =>
      obtain ⟨differs, restDiffers⟩ := List.forall_mem_cons.mp isLast
      exact ih restDiffers _
        (mem_insertEntry_of_ne (Ne.symm differs) inserted later.2)

theorem insertEntry_pairwise (sorted : entries.Pairwise (·.1 < ·.1))
    (key : String) (value : α) :
    (insertEntry key value entries).Pairwise (·.1 < ·.1) := by
  induction entries with
  | nil => simp [insertEntry]
  | cons head rest ih =>
      obtain ⟨least, sortedRest⟩ := List.pairwise_cons.mp sorted
      unfold insertEntry
      split
      next isLess =>
        refine List.pairwise_cons.mpr ⟨fun other member => ?_, ih sortedRest⟩
        rcases mem_of_mem_insertEntry member with isKey | isLater
        · exact isKey ▸ isLess
        · exact least other isLater
      next notLess =>
        split
        next isKey =>
          subst isKey
          exact List.pairwise_cons.mpr ⟨least, sortedRest⟩
        next notKey =>
          have isFirst : key < head.1 :=
            lt_of_le_of_ne (not_lt.mp notLess) (Ne.symm notKey)
          refine List.pairwise_cons.mpr ⟨fun other member => ?_, sorted⟩
          rcases List.mem_cons.mp member with rfl | isLater
          · exact isFirst
          · exact isFirst.trans (least other isLater)

/-- Entries end up in strictly ascending order of their keys, however often
these are repeated. -/
theorem ofEntries_pairwise (entries : List (String × α)) :
    (ofEntries entries).Pairwise (·.1 < ·.1) := by
  suffices loop : ∀ {start : List (String × α)}, start.Pairwise (·.1 < ·.1) →
      (entries.foldl (fun sorted entry => insertEntry entry.1 entry.2 sorted)
        start).Pairwise (·.1 < ·.1) from loop .nil
  induction entries with
  | nil => exact fun sorted => sorted
  | cons entry rest ih =>
      exact fun sorted => ih (insertEntry_pairwise sorted entry.1 entry.2)

/-- An entry with a key that is not there replaces none. -/
theorem insertEntry_eq_insertBy {entry : String × α}
    (isNew : entry.1 ∉ entries.map (·.1)) :
    insertEntry entry.1 entry.2 entries = insertBy (·.1) entry entries := by
  induction entries with
  | nil => rfl
  | cons head rest ih =>
      rw [List.map_cons, List.mem_cons, not_or] at isNew
      rw [insertEntry, insertBy, ih isNew.2, if_neg (Ne.symm isNew.1)]

/-- Of entries with distinct keys all stay. -/
theorem ofEntries_eq_insertAll (distinct : (entries.map (·.1)).Nodup) :
    ofEntries entries = insertAll (·.1) entries [] := by
  suffices loop : ∀ {start : List (String × α)},
      (∀ entry ∈ entries, entry.1 ∉ start.map (·.1)) →
      entries.foldl (fun sorted entry => insertEntry entry.1 entry.2 sorted)
        start =
        insertAll (·.1) entries start from loop fun _ _ => List.not_mem_nil
  induction entries with
  | nil => exact fun _ => rfl
  | cons entry rest ih =>
      intro start areNew
      obtain ⟨isNew, areNewRest⟩ := List.forall_mem_cons.mp areNew
      obtain ⟨differs, distinctRest⟩ := List.nodup_cons.mp distinct
      rw [List.foldl_cons, insertEntry_eq_insertBy isNew]
      refine ih distinctRest fun other member => ?_
      rw [((insertBy_perm (·.1) entry start).map _).mem_iff, List.map_cons,
        List.mem_cons, not_or]
      exact ⟨fun same => differs (List.mem_map.mpr ⟨other, member, same⟩),
        areNewRest other member⟩

/-- Entries with distinct keys may be given in any order. -/
theorem ofEntries_congr (distinct : (entries.map (·.1)).Nodup)
    (isPerm : entries.Perm others) :
    ofEntries entries = ofEntries others := by
  rw [ofEntries_eq_insertAll distinct,
    ofEntries_eq_insertAll ((isPerm.map _).nodup_iff.mp distinct)]
  exact insertAll_congr distinct isPerm

end Entries

end AttributeQuery.Sorted
