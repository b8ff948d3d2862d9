import RecordApps.Proofs.Schema.Validity
import RecordApps.Schema.Evolution

/-! # Saved schemas

A schema is stored with all its fields marked as saved. The mark decides what later schemas have
to keep, and nothing else: every check of a schema has the same answer before and after.
-/

namespace RecordApps

/-- The field as it is stored. -/
def FieldDefinition.saved (f : FieldDefinition) : FieldDefinition :=
  { f with temporary := false }

/-- The calculation of the field as it is stored. -/
def Calculation.saved (c : Calculation) : Calculation :=
  { c with field := c.field.saved }

theorem FieldDefinition.saved_validate (f : FieldDefinition) : f.saved.validate = f.validate := by
  cases f
  rfl

namespace Calculation

theorem visit_saved (calculations : KeyMap Calculation) (room : Nat) (path : List String)
    (ordered : List Calculation) (code : String) :
    visit (calculations.mapValues saved) room path (ordered.map saved) code =
      (visit calculations room path ordered code).map (List.map saved) := by
  induction room generalizing path ordered code with
  | zero => rfl
  | succ room ih =>
      have hdone : (ordered.map saved).any (·.code == code) = ordered.any (·.code == code) :=
        List.any_map
      rw [visit, visit, hdone, KeyMap.get?_mapValues]
      split
      case isTrue => rfl
      case isFalse =>
        split
        case isTrue => rfl
        case isFalse =>
          cases calculations.get? code with
          | none => rfl
          | some c =>
              simp only [Option.map_some]
              rw [show c.saved.formula = c.formula from rfl, Outcome.foldlM_map (ih _)]
              rcases c.formula.fieldCodes.foldlM (visit calculations room (code :: path)) ordered
                with fault | needed
              · rfl
              · refine congrArg Except.ok ?_
                rw [List.map_append, List.map_singleton]

theorem inOrder_saved (calculations : KeyMap Calculation) :
    inOrder (calculations.mapValues saved) = (inOrder calculations).map (List.map saved) := by
  have hlength : (calculations.mapValues saved).entries.length = calculations.entries.length :=
    List.length_map _
  rw [inOrder, inOrder, KeyMap.keys_mapValues, hlength]
  exact Outcome.foldlM_map (visit_saved calculations _ []) _ []

end Calculation

namespace AppSchema

variable (schema : AppSchema) (f : FieldDefinition)

/-- The check of the fields looks at each by itself, and else at codes and types. -/
theorem checkFields_map {change : FieldDefinition → FieldDefinition}
    (hvalidate : ∀ f, (change f).validate = f.validate) (hcode : ∀ f, (change f).code = f.code)
    (htype : ∀ f, (change f).type = f.type) (app : String) (codes autoTypes : List String)
    (fields : List FieldDefinition) :
    checkFields app codes autoTypes (fields.map change) =
      checkFields app codes autoTypes fields := by
  induction fields generalizing codes autoTypes with
  | nil => rfl
  | cons head rest ih =>
      rw [List.map_cons, checkFields, checkFields, hvalidate, hcode, htype, ih]

theorem persisted_activeFields :
    schema.persisted.activeFields = schema.activeFields.map FieldDefinition.saved :=
  List.filter_map

theorem persisted_field? (code : String) :
    schema.persisted.field? code = (schema.field? code).map FieldDefinition.saved := by
  rw [field?, persisted_activeFields]
  exact List.find?_map

theorem persisted_checkReferences :
    schema.persisted.checkReferences f.saved = schema.checkReferences f := by
  have hrequire : ∀ code, schema.persisted.requireField code =
      (schema.requireField code).map FieldDefinition.saved := by
    intro code
    rw [requireField, requireField, persisted_field?]
    cases schema.field? code <;> rfl
  have hcopy : schema.persisted.checkCopyTarget f.saved = schema.checkCopyTarget f := by
    funext copy
    rw [checkCopyTarget, checkCopyTarget, hrequire, Outcome.map_bind]
    rfl
  rw [checkReferences, checkReferences, hcopy]
  simp only [hrequire, Outcome.map_bind]
  rfl

theorem persisted_calculation? :
    schema.persisted.calculation? f.saved =
      (schema.calculation? f).map (Option.map Calculation.saved) := by
  have hoperand : schema.persisted.checkOperand = schema.checkOperand := by
    funext code operand
    rw [checkOperand, checkOperand, persisted_field?]
    cases schema.field? operand <;> rfl
  rw [calculation?, calculation?, hoperand, show f.saved.type = f.type from rfl]
  split
  case h_1 config htype =>
    cases Formula.parse config.formula with
    | error cause => rfl
    | ok formula =>
        dsimp only
        rw [show f.saved.code = f.code from rfl]
        cases formula.fieldCodes.forM (schema.checkOperand f.code.text) <;> rfl
  case h_2 => rfl

theorem persisted_calculations :
    schema.persisted.calculations =
      schema.calculations.map (KeyMap.mapValues Calculation.saved) := by
  rw [calculations, calculations, persisted_activeFields,
    Outcome.mapM_map schema.persisted_calculation?]
  cases schema.activeFields.mapM schema.calculation? with
  | error fault => rfl
  | ok found =>
      refine congrArg Except.ok ?_
      rw [← KeyMap.ofList_mapValues, List.filterMap_map, List.map_filterMap]
      refine congrArg KeyMap.ofList (List.filterMap_congr fun entry _ => ?_)
      cases entry <;> rfl

theorem persisted_calculationOrder :
    schema.persisted.calculationOrder =
      schema.calculationOrder.map (List.map Calculation.saved) := by
  rw [calculationOrder, calculationOrder, persisted_calculations, Outcome.map_bind]
  cases schema.calculations with
  | error fault => rfl
  | ok calculations => exact Calculation.inOrder_saved calculations

theorem persisted_validate : schema.persisted.validate = schema.validate := by
  have hreferences : (schema.activeFields.map FieldDefinition.saved).forM
      schema.persisted.checkReferences = schema.activeFields.forM schema.checkReferences := by
    induction schema.activeFields with
    | nil => rfl
    | cons head rest ih =>
        rw [List.map_cons, List.forM_eq_forM, List.forM_cons, persisted_checkReferences]
        exact congrArg _ (funext fun _ => ih)
  rw [validate, validate, persisted_activeFields, persisted_calculationOrder, Outcome.map_bind,
    hreferences, show schema.persisted.fields = schema.fields.map .saved from rfl,
    checkFields_map FieldDefinition.saved_validate (fun _ => rfl) fun _ => rfl]
  rfl

end AppSchema

end RecordApps
