import AttributeQuery.Json.Reading
import AttributeQuery.Proofs.Sorted

/-!
# The order of members

The members of an object may be written in any order, at any depth. The value of
the text is the same, because its objects are in ascending order of their keys.
This leaves out repeated keys, of which the last one counts, and objects that
start with the embedding key, which are not read as objects.
-/

namespace AttributeQuery.Json

/-! ## Embedded texts -/

namespace Value

section Embedding

variable {embedded? other? : String → Option Value}

mutual

/-- Where more embedded texts can be read, what could be read before is read as
the same value. -/
theorem ofOutline?_mono
    (readsMore : ∀ text value, embedded? text = some value →
      other? text = some value) :
    (outline : Outline) → {depth : Nat} → {value : Value} →
    ofOutline? embedded? depth outline = some value →
    ofOutline? other? depth outline = some value
  | .null, _, _, read => read
  | .boolean _, _, _, read => read
  | .number _, _, _, read => read
  | .string _, _, _, read => read
  | .array _, 0, _, read => read
  | .array items, depth + 1, value, read => by
      rw [ofOutline?, Option.map_eq_some_iff] at read ⊢
      obtain ⟨values, readItems, rfl⟩ := read
      exact ⟨values, itemsOfOutline?_mono readsMore items readItems, rfl⟩
  | .object _, 0, _, read => read
  | .object members, depth + 1, value, read => by
      rw [ofOutline?] at read ⊢
      split at read
      next isEmbedding =>
        rw [if_pos isEmbedding]
        obtain ⟨text, isText, readText⟩ := Option.bind_eq_some_iff.mp read
        exact Option.bind_eq_some_iff.mpr
          ⟨text, isText, readsMore text value readText⟩
      next notEmbedding =>
        rw [if_neg notEmbedding]
        rw [Option.map_eq_some_iff] at read ⊢
        obtain ⟨values, readMembers, rfl⟩ := read
        exact ⟨values,
          membersOfOutline?_mono readsMore members readMembers, rfl⟩

theorem itemsOfOutline?_mono
    (readsMore : ∀ text value, embedded? text = some value →
      other? text = some value) :
    (items : List Outline) → {depth : Nat} → {values : List Value} →
    itemsOfOutline? embedded? depth items = some values →
    itemsOfOutline? other? depth items = some values
  | [], _, _, read => read
  | item :: rest, depth, values, read => by
      simp only [itemsOfOutline?, Option.bind_eq_bind,
        Option.bind_eq_some_iff] at read ⊢
      obtain ⟨value, readItem, later, readRest, returned⟩ := read
      exact ⟨value, ofOutline?_mono readsMore item readItem, later,
        itemsOfOutline?_mono readsMore rest readRest, returned⟩

theorem membersOfOutline?_mono
    (readsMore : ∀ text value, embedded? text = some value →
      other? text = some value) :
    (members : List (List StringItem × Outline)) → {depth : Nat} →
    {values : List (String × Value)} →
    membersOfOutline? embedded? depth members = some values →
    membersOfOutline? other? depth members = some values
  | [], _, _, read => read
  | (key, member) :: rest, depth, values, read => by
      simp only [membersOfOutline?, Option.bind_eq_bind,
        Option.bind_eq_some_iff] at read ⊢
      obtain ⟨text, isText, value, readMember, later, readRest, returned⟩ :=
        read
      exact ⟨text, isText, value, ofOutline?_mono readsMore member readMember,
        later, membersOfOutline?_mono readsMore rest readRest, returned⟩

end

end Embedding

variable {text : String} {value : Value}

theorem ofTextWithin_succ {fuel : Nat}
    (read : ofTextWithin fuel text = some value) :
    ofTextWithin (fuel + 1) text = some value := by
  induction fuel generalizing text value with
  | zero => cases read
  | succ fuel ih =>
      simp only [ofTextWithin, Option.bind_eq_bind,
        Option.bind_eq_some_iff] at read ⊢
      obtain ⟨outline, isOutline, readOutline⟩ := read
      exact ⟨outline, isOutline,
        ofOutline?_mono (fun _ _ => ih) outline readOutline⟩

/-- What is read with some fuel is read with more as the same value. -/
theorem ofTextWithin_mono {fuel more : Nat} (isLess : fuel ≤ more)
    (read : ofTextWithin fuel text = some value) :
    ofTextWithin more text = some value := by
  induction isLess with
  | refl => exact read
  | step _ ih => exact ofTextWithin_succ ih

/-- The members of an object that was read are in strictly ascending order of
their keys. -/
theorem ofTextWithin_object_pairwise {fuel : Nat}
    {members : List (String × Value)}
    (read : ofTextWithin fuel text = some (.object members)) :
    members.Pairwise (·.1 < ·.1) := by
  induction fuel generalizing text with
  | zero => cases read
  | succ fuel ih =>
      simp only [ofTextWithin, Option.bind_eq_bind,
        Option.bind_eq_some_iff] at read
      obtain ⟨outline, -, readOutline⟩ := read
      cases outline with
      | null | boolean | string => simp [ofOutline?] at readOutline
      | number | array => simp [ofOutline?, maximalDepth] at readOutline
      | object written =>
          rw [maximalDepth, ofOutline?] at readOutline
          split at readOutline
          next =>
            obtain ⟨embedded, -, readEmbedded⟩ :=
              Option.bind_eq_some_iff.mp readOutline
            exact ih readEmbedded
          next =>
            obtain ⟨values, -, isObject⟩ :=
              Option.map_eq_some_iff.mp readOutline
            obtain rfl := Value.object.inj isObject
            exact Sorted.ofEntries_pairwise values

end Value

/-! ## Outlines with other orders of members -/

namespace Outline

/-- Outlines that differ in the order of the members of objects, whose keys are
distinct. No object starts with the embedding key, in one order or the other. -/
inductive Rearranged : Outline → Outline → Prop where
  | refl (outline : Outline) : Rearranged outline outline
  | trans {first second third : Outline} (before : Rearranged first second)
      (after : Rearranged second third) : Rearranged first third
  | members {members others : List (List StringItem × Outline)}
      (isPerm : members.Perm others)
      (distinct : (members.map fun member => decodeString? member.1).Nodup)
      (isObject : embeds members = false)
      (isOtherObject : embeds others = false) :
      Rearranged (.object members) (.object others)
  | item (before after : List Outline) {item other : Outline}
      (changed : Rearranged item other) :
      Rearranged (.array (before ++ item :: after))
        (.array (before ++ other :: after))
  | member (before after : List (List StringItem × Outline))
      (key : List StringItem) {member other : Outline}
      (changed : Rearranged member other) :
      Rearranged (.object (before ++ (key, member) :: after))
        (.object (before ++ (key, other) :: after))

/-- The items of an outline that is a string. -/
def string? : Outline → Option (List StringItem)
  | .string items => some items
  | _ => none

theorem Rearranged.string?_eq {outline other : Outline}
    (changed : Rearranged outline other) :
    outline.string? = other.string? := by
  induction changed with
  | refl => rfl
  | trans _ _ before after => exact before.trans after
  | members | item | member => rfl

end Outline

theorem embeddedText?_singleton (key : List StringItem) (member : Outline) :
    embeddedText? [(key, member)] = member.string?.bind decodeString? := by
  cases member <;> rfl

theorem embeddedText?_member (before after : List (List StringItem × Outline))
    (key : List StringItem) {member other : Outline}
    (same : member.string? = other.string?) :
    embeddedText? (before ++ (key, member) :: after) =
      embeddedText? (before ++ (key, other) :: after) := by
  match before, after with
  | [], [] => simp only [List.nil_append, embeddedText?_singleton, same]
  | [], next :: later => simp [embeddedText?]
  | [first], after => simp [embeddedText?]
  | first :: second :: rest, after => simp [embeddedText?]

theorem embeds_member (before after : List (List StringItem × Outline))
    (key : List StringItem) (member other : Outline) :
    embeds (before ++ (key, member) :: after) =
      embeds (before ++ (key, other) :: after) := by
  cases before <;> rfl

namespace Value

variable {embedded? : String → Option Value} {depth : Nat}

theorem itemsOfOutline?_item (before after : List Outline)
    {item other : Outline}
    (same : ofOutline? embedded? depth item =
      ofOutline? embedded? depth other) :
    itemsOfOutline? embedded? depth (before ++ item :: after) =
      itemsOfOutline? embedded? depth (before ++ other :: after) := by
  induction before with
  | nil => simp only [List.nil_append, itemsOfOutline?, same]
  | cons first rest ih => simp only [List.cons_append, itemsOfOutline?, ih]

theorem membersOfOutline?_member
    (before after : List (List StringItem × Outline)) (key : List StringItem)
    {member other : Outline}
    (same : ofOutline? embedded? depth member =
      ofOutline? embedded? depth other) :
    membersOfOutline? embedded? depth (before ++ (key, member) :: after) =
      membersOfOutline? embedded? depth (before ++ (key, other) :: after) := by
  induction before with
  | nil => simp only [List.nil_append, membersOfOutline?, same]
  | cons first rest ih => simp only [List.cons_append, membersOfOutline?, ih]

theorem membersOfOutline?_cons_eq_some {key : List StringItem}
    {member : Outline} {rest : List (List StringItem × Outline)}
    {values : List (String × Value)} :
    membersOfOutline? embedded? depth ((key, member) :: rest) = some values ↔
      ∃ text value later, decodeString? key = some text ∧
        ofOutline? embedded? depth member = some value ∧
        membersOfOutline? embedded? depth rest = some later ∧
        values = (text, value) :: later := by
  simp only [membersOfOutline?, Option.bind_eq_bind, Option.bind_eq_some_iff]
  constructor
  · rintro ⟨text, isText, value, readMember, later, readRest, returned⟩
    exact ⟨text, value, later, isText, readMember, readRest,
      (Option.some.inj returned).symm⟩
  · rintro ⟨text, value, later, isText, readMember, readRest, rfl⟩
    exact ⟨text, isText, value, readMember, later, readRest, rfl⟩

/-- The keys of members that were read are those written. -/
theorem keys_of_membersOfOutline? {members : List (List StringItem × Outline)}
    {values : List (String × Value)}
    (read : membersOfOutline? embedded? depth members = some values) :
    (members.map fun member => decodeString? member.1) = values.map fun value =>
      some value.1 := by
  induction members generalizing values with
  | nil =>
      obtain rfl := Option.some.inj read
      rfl
  | cons member rest ih =>
      obtain ⟨text, value, later, isText, -, readRest, rfl⟩ :=
        membersOfOutline?_cons_eq_some.mp read
      rw [List.map_cons, List.map_cons, isText, ih readRest]

/-- Members are read in any order, to the same members in that order. -/
theorem membersOfOutline?_perm
    {members others : List (List StringItem × Outline)}
    (isPerm : members.Perm others) {values : List (String × Value)}
    (read : membersOfOutline? embedded? depth members = some values) :
    ∃ otherValues, membersOfOutline? embedded? depth others = some otherValues ∧
      values.Perm otherValues := by
  induction isPerm generalizing values with
  | nil => exact ⟨values, read, .refl values⟩
  | cons member _ ih =>
      obtain ⟨text, value, later, isText, readMember, readRest, rfl⟩ :=
        membersOfOutline?_cons_eq_some.mp read
      obtain ⟨others, readOthers, isPerm⟩ := ih readRest
      exact ⟨_, membersOfOutline?_cons_eq_some.mpr
        ⟨text, value, others, isText, readMember, readOthers, rfl⟩,
        isPerm.cons _⟩
  | swap first second rest =>
      obtain ⟨text, value, later, isText, readMember, readLater, rfl⟩ :=
        membersOfOutline?_cons_eq_some.mp read
      obtain ⟨otherText, otherValue, last, isOtherText, readOther,
          readRest, rfl⟩ :=
        membersOfOutline?_cons_eq_some.mp readLater
      exact ⟨_,
        membersOfOutline?_cons_eq_some.mpr
          ⟨otherText, otherValue, _, isOtherText, readOther,
            membersOfOutline?_cons_eq_some.mpr
              ⟨text, value, last, isText, readMember, readRest, rfl⟩, rfl⟩,
        .swap _ _ last⟩
  | trans _ _ ih ihLater =>
      obtain ⟨between, readBetween, isPerm⟩ := ih read
      obtain ⟨others, readOthers, isPermLater⟩ := ihLater readBetween
      exact ⟨others, readOthers, isPerm.trans isPermLater⟩

theorem map_ofEntries_of_perm (embedded? : String → Option Value) (depth : Nat)
    {members others : List (List StringItem × Outline)}
    (isPerm : members.Perm others)
    (distinct : (members.map fun member => decodeString? member.1).Nodup) :
    (membersOfOutline? embedded? depth members).map Sorted.ofEntries =
      (membersOfOutline? embedded? depth others).map Sorted.ofEntries := by
  cases read : membersOfOutline? embedded? depth members with
  | none =>
      cases readOther : membersOfOutline? embedded? depth others with
      | none => rfl
      | some values =>
          obtain ⟨_, reads, -⟩ := membersOfOutline?_perm isPerm.symm readOther
          rw [read] at reads
          cases reads
  | some values =>
      obtain ⟨otherValues, readOthers, isPermOfValues⟩ :=
        membersOfOutline?_perm isPerm read
      rw [keys_of_membersOfOutline? read] at distinct
      have distinctKeys : (values.map (·.1)).Nodup := by
        refine List.Nodup.of_map some ?_
        rw [List.map_map]
        exact distinct
      rw [readOthers, Option.map_some, Option.map_some,
        Sorted.ofEntries_congr distinctKeys isPermOfValues]

/-- The order of members makes no difference to the value. -/
theorem ofOutline?_eq_of_rearranged {outline other : Outline}
    (changed : outline.Rearranged other) (depth : Nat) :
    ofOutline? embedded? depth outline = ofOutline? embedded? depth other := by
  induction changed generalizing depth with
  | refl => rfl
  | trans _ _ before after => exact (before depth).trans (after depth)
  | members isPerm distinct isObject isOtherObject =>
      cases depth with
      | zero => rfl
      | succ depth =>
          have same := congrArg (Option.map Value.object)
            (map_ofEntries_of_perm embedded? depth isPerm distinct)
          rw [Option.map_map, Option.map_map] at same
          rw [ofOutline?, ofOutline?, isObject, isOtherObject]
          exact same
  | item before after _ ih =>
      cases depth with
      | zero => rfl
      | succ depth =>
          rw [ofOutline?, ofOutline?,
            itemsOfOutline?_item before after (ih depth)]
  | member before after key changed ih =>
      cases depth with
      | zero => rfl
      | succ depth =>
          rw [ofOutline?, ofOutline?,
            membersOfOutline?_member before after key (ih depth),
            embeds_member before after key,
            embeddedText?_member before after key changed.string?_eq]

/-- Two texts that can both be read, and whose outlines differ in the order of
members only, have the same value. -/
theorem ofText?_eq_of_rearranged {text otherText : String}
    {outline otherOutline : Outline}
    (isOutline : Outline.ofText? text = some outline)
    (isOther : Outline.ofText? otherText = some otherOutline)
    (changed : outline.Rearranged otherOutline) {value otherValue : Value}
    (read : ofText? text = some value)
    (readOther : ofText? otherText = some otherValue) :
    value = otherValue := by
  -- Texts of different lengths are read with different fuel.
  let fuel := max text.length otherText.length
  have readMore : ofTextWithin (fuel + 1) text = some value :=
    ofTextWithin_mono (Nat.succ_le_succ (le_max_left _ _)) read
  have readOtherMore : ofTextWithin (fuel + 1) otherText = some otherValue :=
    ofTextWithin_mono (Nat.succ_le_succ (le_max_right _ _)) readOther
  simp only [ofTextWithin, isOutline, isOther, Option.bind_eq_bind,
    Option.bind_some, ofOutline?_eq_of_rearranged changed]
    at readMore readOtherMore
  exact Option.some.inj (readMore.symm.trans readOtherMore)

end Value

/-! ## Texts with the same members -/

/-- Two texts hold objects with the same members, as they are read or as they
are written. -/
inductive SameMembers (text other : String) : Prop where
  | read {members others : List (String × Value)}
      (isObject : Value.ofText? text = some (.object members))
      (isOther : Value.ofText? other = some (.object others))
      (same : ∀ member, member ∈ members ↔ member ∈ others)
  | written {outline otherOutline : Outline} {value otherValue : Value}
      (isOutline : Outline.ofText? text = some outline)
      (isOther : Outline.ofText? other = some otherOutline)
      (changed : outline.Rearranged otherOutline)
      (isRead : Value.ofText? text = some value)
      (isOtherRead : Value.ofText? other = some otherValue)

theorem SameMembers.ofText?_eq {text other : String}
    (same : SameMembers text other) :
    Value.ofText? text = Value.ofText? other := by
  cases same with
  | read isObject isOther same =>
      have equal :=
        Sorted.eq_of_mem_iff (·.1) (Value.ofTextWithin_object_pairwise isObject)
          (Value.ofTextWithin_object_pairwise isOther) same
      rw [isObject, isOther, equal]
  | written isOutline isOther changed isRead isOtherRead =>
      rw [isRead, isOtherRead,
        Value.ofText?_eq_of_rearranged isOutline isOther changed
          isRead isOtherRead]

end AttributeQuery.Json
