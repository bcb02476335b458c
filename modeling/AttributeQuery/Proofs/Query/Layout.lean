import AttributeQuery.Proofs.Sql.Spelling
import AttributeQuery.Settings.Basic

/-!
# Valid layouts

What the checks of layouts and settings ask for. The names of a valid layout are
single words wherever they stand in a text.
-/

namespace AttributeQuery

open Sql

theorem LayoutField.mem_all (field : LayoutField) : field ∈ all := by
  cases field <;> simp [all]

/-- A layout is valid if every name of it is a plain identifier. -/
theorem Layout.check_eq_ok {layout : Layout} :
    layout.check = .ok () ↔
      ∀ field, Text.Identifier.isIdentifier (layout.name field) = true := by
  unfold Layout.check
  split
  next passed =>
    rw [List.find?_eq_none] at passed
    simpa [LayoutField.mem_all] using passed
  next field found =>
    have offends := List.find?_some found
    simp only [reduceCtorEq, false_iff, not_forall]
    exact ⟨field, by simpa using offends⟩

/-- Settings are valid if links can be followed at all and their layout is
valid. -/
theorem Settings.check_eq_ok {settings : Settings} :
    settings.check = .ok () ↔
      1 ≤ settings.options.maxRelationDepth ∧
        settings.layout.check = .ok () := by
  unfold check
  split
  next noDepth => simp [noDepth]
  next isDepth =>
    exact (and_iff_right (Nat.one_le_iff_ne_zero.mpr isDepth)).symm

/-- Every name of a valid layout is a word. -/
theorem Layout.isWord_name {layout : Layout} (valid : layout.check = .ok ())
    (field : LayoutField) : IsWord (layout.name field) :=
  .of_isIdentifier (Layout.check_eq_ok.mp valid field)

end AttributeQuery
