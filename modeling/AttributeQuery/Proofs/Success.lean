import Mathlib

/-!
# Successful computations

What a computation that may fail has done when it succeeds: every step of it
has succeeded.
-/

namespace AttributeQuery

variable {Failure Other α β : Type}

/-- A sequence of two steps succeeds when both do. -/
theorem bind_eq_ok {first : Except Failure α} {next : α → Except Failure β}
    {result : β} :
    first >>= next = .ok result ↔ ∃ value,
    first = .ok value ∧ next value = .ok result := by
  cases first with
  | error failure => simp [bind, Except.bind]
  | ok value => simp [bind, Except.bind]

/-- A sequence of two steps fails when one of them does. -/
theorem bind_eq_error {first : Except Failure α} {next : α → Except Failure β}
    {failure : Failure} :
    first >>= next = .error failure ↔
      first = .error failure ∨ ∃ value,
      first = .ok value ∧ next value = .error failure := by
  cases first with
  | error other => simp [bind, Except.bind]
  | ok value => simp [bind, Except.bind]

/-- A check and what follows it succeed when both do. -/
theorem check_bind_eq_ok {check : Except Failure PUnit}
    {next : PUnit → Except Failure β} {result : β} :
    check >>= next = .ok result ↔ check = .ok () ∧ next () = .ok result := by
  rw [bind_eq_ok]
  exact ⟨fun ⟨_, checked, later⟩ => ⟨checked, later⟩,
    fun ⟨checked, later⟩ => ⟨(), checked, later⟩⟩

/-- A check of a condition succeeds when it holds. -/
theorem ite_eq_ok {condition : Prop} [Decidable condition] {failure : Failure} :
    (if condition then .ok () else .error failure : Except Failure PUnit) =
      .ok () ↔
      condition := by
  by_cases holds : condition <;> simp [holds]

theorem pure_eq_ok {value result : α} :
    (pure value : Except Failure α) = .ok result ↔ value = result := by
  simp [pure, Except.pure]

theorem map_eq_ok {computed : Except Failure α} {change : α → β} {result : β} :
    computed.map change = .ok result ↔ ∃ value, computed = .ok value ∧
      change value = result := by
  cases computed <;> simp [Except.map]

theorem mapError_eq_ok {computed : Except Failure α} {change : Failure → Other}
    {result : α} :
    computed.mapError change = .ok result ↔ computed = .ok result := by
  cases computed <;> simp [Except.mapError]

theorem toOption_eq_some {computed : Except Failure α} {result : α} :
    computed.toOption = some result ↔ computed = .ok result := by
  cases computed <;> simp [Except.toOption]

theorem isOk_iff {computed : Except Failure α} :
    computed.isOk = true ↔ ∃ value, computed = .ok value := by
  cases computed <;> simp [Except.isOk, Except.toBool]

/-- Why a computation fails, if it does. -/
def faultOf : Except Failure α → Option Failure
  | .ok _ => none
  | .error failure => some failure

theorem faultOf_eq_some {computed : Except Failure α} {failure : Failure} :
    faultOf computed = some failure ↔ computed = .error failure := by
  cases computed <;> simp [faultOf]

theorem faultOf_eq_none {computed : Except Failure α} :
    faultOf computed = none ↔ ∃ value, computed = .ok value := by
  cases computed <;> simp [faultOf]

theorem isOk_iff_faultOf {computed : Except Failure α} :
    computed.isOk = true ↔ faultOf computed = none := by
  rw [isOk_iff, faultOf_eq_none]

/-- A sequence of two steps fails as the first does or else as the second, when
the value of the first makes no difference to how the second fails. -/
theorem faultOf_bind {first : Except Failure α} {next : α → Except Failure β}
    {later : Option Failure} (always : ∀ value, faultOf (next value) = later) :
    faultOf (first >>= next) = (faultOf first).or later := by
  cases first with
  | error failure => rfl
  | ok value => exact always value

theorem faultOf_bind_pure {first : Except Failure α} {change : α → β} :
    faultOf (first >>= fun value => pure (change value)) = faultOf first := by
  cases first <;> rfl

theorem findSome?_cons_eq_or {find : α → Option β} {value : α} {rest : List α} :
    (value :: rest).findSome? find = (find value).or (rest.findSome? find) := by
  rw [List.findSome?_cons]
  cases find value <;> rfl

/-- A computation on each element of a list succeeds when all of them do. -/
theorem mapM_eq_ok {compute : α → Except Failure β} {values : List α}
    {results : List β} :
    values.mapM compute = .ok results ↔
      List.Forall₂ (fun value result => compute value = .ok result)
        values results := by
  induction values generalizing results with
  | nil => simp [pure, Except.pure, eq_comm]
  | cons value rest ih =>
      simp only [List.mapM_cons, bind_eq_ok, List.forall₂_cons_left_iff]
      constructor
      · rintro ⟨first, computedFirst, others, computedRest, stored⟩
        exact ⟨first, others, computedFirst, ih.mp computedRest,
          (Except.ok.inj stored).symm⟩
      · rintro ⟨first, others, computedFirst, computedRest, rfl⟩
        exact ⟨first, computedFirst, others, ih.mpr computedRest, rfl⟩

/-- A computation on each element of a list fails when it does on one of
them. -/
theorem exists_error_of_mapM {compute : α → Except Failure β} {values : List α}
    {failure : Failure} (failed : values.mapM compute = .error failure) :
    ∃ value ∈ values, compute value = .error failure := by
  induction values with
  | nil => simp [pure, Except.pure] at failed
  | cons value rest ih =>
      rw [List.mapM_cons] at failed
      cases bind_eq_error.mp failed with
      | inl failedFirst => exact ⟨value, List.mem_cons_self, failedFirst⟩
      | inr later =>
          obtain ⟨result, -, failedLater⟩ := later
          cases bind_eq_error.mp failedLater with
          | inl failedRest =>
              obtain ⟨other, member, failedOther⟩ := ih failedRest
              exact ⟨other, List.mem_cons_of_mem _ member, failedOther⟩
          | inr returned =>
              obtain ⟨results, -, returned⟩ := returned
              cases returned

/-- A check of all values succeeds when it does on each. -/
theorem forM_eq_ok {check : α → Except Failure PUnit} {values : List α} :
    values.forM check = .ok () ↔ ∀ value ∈ values, check value = .ok () := by
  induction values with
  | nil => simp [pure, Except.pure]
  | cons value rest ih =>
      change (check value >>= fun _ => rest.forM check) = .ok () ↔ _
      rw [bind_eq_ok, List.forall_mem_cons, ← ih]
      constructor
      · rintro ⟨_, checkedFirst, checkedRest⟩
        exact ⟨checkedFirst, checkedRest⟩
      · rintro ⟨checkedFirst, checkedRest⟩
        exact ⟨(), checkedFirst, checkedRest⟩

/-- Of two related lists, each element of the first is related to one of the
second. -/
theorem exists_of_forall₂_left {Related : α → β → Prop} {values : List α}
    {results : List β} (related : List.Forall₂ Related values results)
    {value : α} (member : value ∈ values) :
    ∃ result ∈ results, Related value result := by
  induction related with
  | nil => simp at member
  | @cons first result _ _ relatedFirst _ ih =>
      rcases List.mem_cons.mp member with rfl | later
      · exact ⟨result, List.mem_cons_self, relatedFirst⟩
      · obtain ⟨other, isResult, relatedOther⟩ := ih later
        exact ⟨other, List.mem_cons_of_mem _ isResult, relatedOther⟩

/-- Elements that are each related to something are related to a list. -/
theorem exists_forall₂ {Related : α → β → Prop} {values : List α}
    (each : ∀ value ∈ values, ∃ result, Related value result) :
    ∃ results, List.Forall₂ Related values results := by
  induction values with
  | nil => exact ⟨[], .nil⟩
  | cons value rest ih =>
      obtain ⟨result, related⟩ := each value List.mem_cons_self
      obtain ⟨results, relatedRest⟩ :=
        ih fun other member => each other (List.mem_cons_of_mem _ member)
      exact ⟨result :: results, .cons related relatedRest⟩

/-- Of two related lists, each element of the second is related to one of the
first. -/
theorem exists_of_forall₂_right {Related : α → β → Prop} {values : List α}
    {results : List β} (related : List.Forall₂ Related values results)
    {result : β} (member : result ∈ results) : ∃ value ∈ values,
    Related value result :=
  exists_of_forall₂_left related.flip member

/-- Of two related lists, some element of the one has a property when some
element of the other has what the relation makes of it. -/
theorem exists_iff_of_forall₂ {Related : α → β → Prop} {values : List α}
    {results : List β} (related : List.Forall₂ Related values results)
    {Holds : α → Prop} {HoldsOther : β → Prop}
    (same : ∀ {value result}, value ∈ values → Related value result →
      (HoldsOther result ↔ Holds value)) :
    (∃ result ∈ results, HoldsOther result) ↔ ∃ value ∈ values,
    Holds value := by
  induction related with
  | nil => simp
  | cons head _ ih =>
      simp only [List.exists_mem_cons_iff]
      rw [same List.mem_cons_self head,
        ih fun member => same (List.mem_cons_of_mem _ member)]

/-- The results of two lists of one length are related when those of any two of
their elements are. -/
theorem forall₂_of_forall₂ {First Second : α → β → Prop}
    {Related : β → β → Prop} {values others : List α}
    {results otherResults : List β} (sameLength : values.length = others.length)
    (first : List.Forall₂ First values results)
    (second : List.Forall₂ Second others otherResults)
    (related : ∀ value result other otherResult, First value result →
      Second other otherResult →
      Related result otherResult) :
    List.Forall₂ Related results otherResults := by
  induction first generalizing others otherResults with
  | nil =>
      cases second with
      | nil => exact .nil
      | cons => simp at sameLength
  | cons head _ ih =>
      cases second with
      | nil => simp at sameLength
      | cons otherHead otherTail =>
          exact .cons (related _ _ _ _ head otherHead)
            (ih (by simpa using sameLength) otherTail)

end AttributeQuery
