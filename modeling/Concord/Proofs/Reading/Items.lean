import Concord.Proofs.Reading.Expressions
import Concord.Source.Grammar.Statement

/-!
# Rules for items and statements

The rules for fields, signatures, definitions, imports, items and statements, by two readers of phrases that answer alike to
fewer than `n - 1` tokens. An item takes a token of its own before it asks for a phrase; a statement can start with an
expression that stands by itself.
-/

namespace Concord.Source.Grammar

open Concord.Source.Parser

set_option synthInstance.maxSize 1000

variable {n : Nat} {read read' : Reader} [∀ p, Alike (n - 1) (read p) (read' p)] (steps : Nat)

/-! ## Fields and bodies -/

instance : Consumes name := by
  dsimp only [name]
  infer_instance

instance : Alike n (namedField read) (namedField read') := by
  dsimp only [namedField]
  infer_instance

instance : Alike n (namedFields read) (namedFields read') := by
  dsimp only [namedFields]
  infer_instance

instance : Alike (n - 1) (unnamedField read) (unnamedField read') := by
  dsimp only [unnamedField]
  infer_instance

instance : Alike n (unnamedFields read) (unnamedFields read') := by
  dsimp only [unnamedFields]
  infer_instance

instance : Alike n (variant read) (variant read') := by
  dsimp only [variant]
  infer_instance

instance : Alike n (afterUnnamedFields read) (afterUnnamedFields read') := by
  dsimp only [afterUnnamedFields]
  infer_instance

instance : Alike n (structureBody read) (structureBody read') := by
  dsimp only [structureBody, fieldsEnd, noConditions, semicolonEnd]
  infer_instance

instance : Alike n (enumerationBody read) (enumerationBody read') := by
  dsimp only [enumerationBody]
  infer_instance

instance : Alike n (unionBody read) (unionBody read') := by
  dsimp only [unionBody]
  infer_instance

/-! ## Signatures -/

instance : Alike n (receiver read) (receiver read') := by
  dsimp only [receiver]
  infer_instance

instance : Alike (n - 1) (declaredArgument read) (declaredArgument read') := by
  dsimp only [declaredArgument]
  infer_instance

instance (isFirst received : Bool) :
    Alike (n - 1) (declaredArgumentsWithin read steps isFirst received)
      (declaredArgumentsWithin read' steps isFirst received) := by
  induction steps generalizing isFirst received with
  | zero => exact .refl _
  | succ steps ih =>
    dsimp only [declaredArgumentsWithin]
    refine .bind_of_forall inferInstance fun ended => ?_
    split
    · infer_instance
    · refine .bind_of_forall inferInstance fun front => ?_
      refine .bind_of_forall inferInstance fun isVariadic => ?_
      split
      · infer_instance
      · refine .bind_of_forall inferInstance fun this => ?_
        cases this <;> dsimp only <;> infer_instance

instance : Alike (n - 1) (declaredArguments read) (declaredArguments read') := by
  dsimp only [declaredArguments]
  infer_instance

instance (safety : Bool) : Alike n (signature read safety) (signature read' safety) := by
  dsimp only [signature]
  infer_instance

/-! ## Definitions -/

instance : Alike n (constantDefinition read) (constantDefinition read') := by
  dsimp only [constantDefinition]
  infer_instance

instance (place : ConditionPlace) : Alike n (typeDefinition read place) (typeDefinition read' place) := by
  dsimp only [typeDefinition]
  infer_instance

instance : Alike n (functionBody read) (functionBody read') := by
  dsimp only [functionBody]
  infer_instance

/-! ## Items in items -/

instance (rule rule' : Parser (Option Spelling)) [Alike n rule rule'] :
    Alike n (innerItem read rule) (innerItem read' rule') := by
  dsimp only [innerItem]
  infer_instance

instance (item item' : Speller) [Alike (n - 1) item item'] : Alike n (innerItems read item) (innerItems read' item') := by
  dsimp only [innerItems]
  infer_instance

instance : Alike n (traitFunction read) (traitFunction read') := by
  dsimp only [traitFunction]
  infer_instance

instance : Alike n (traitConstant read) (traitConstant read') := by
  dsimp only [traitConstant]
  infer_instance

instance : Alike n (traitItem read) (traitItem read') := by
  dsimp only [traitItem]
  infer_instance

instance : Alike n (implementationItem read) (implementationItem read') := by
  dsimp only [implementationItem]
  infer_instance

instance : Alike n (foreignStatic read) (foreignStatic read') := by
  dsimp only [foreignStatic]
  infer_instance

instance : Alike n (foreignItem read) (foreignItem read') := by
  dsimp only [foreignItem]
  infer_instance

/-! ## Traits and implementations -/

instance : Alike n (traitBody read) (traitBody read') := by
  dsimp only [traitBody]
  infer_instance

instance : Alike n (boundsAlias read) (boundsAlias read') := by
  dsimp only [boundsAlias]
  infer_instance

instance : Alike n (modifiedTrait read) (modifiedTrait read') := by
  dsimp only [modifiedTrait]
  infer_instance

instance : Alike n (plainTrait read) (plainTrait read') := by
  dsimp only [plainTrait]
  infer_instance

instance (isShown : Bool) : Alike n (implementation read isShown) (implementation read' isShown) := by
  dsimp only [implementation]
  infer_instance

/-! ## Imports -/

instance (rooted : Bool) : Alike (n - 1) (groupedImport read rooted) (groupedImport read' rooted) := by
  dsimp only [groupedImport]
  infer_instance

instance (rooted : Bool) : Alike n (imports read rooted) (imports read' rooted) := by
  dsimp only [imports]
  infer_instance

instance : Alike n (importItem read) (importItem read') := by
  dsimp only [importItem]
  infer_instance

/-! ## Items -/

instance : Alike n (functionItem read) (functionItem read') := by
  dsimp only [functionItem]
  infer_instance

instance : Alike n (staticItem read) (staticItem read') := by
  dsimp only [staticItem]
  infer_instance

instance : Alike n (constantItem read) (constantItem read') := by
  dsimp only [constantItem]
  infer_instance

instance : Alike n (typeItem read) (typeItem read') := by
  dsimp only [typeItem]
  infer_instance

instance : Alike n (foreignBlock read) (foreignBlock read') := by
  dsimp only [foreignBlock]
  infer_instance

instance : Alike n (moduleItem read) (moduleItem read') := by
  dsimp only [moduleItem]
  infer_instance

instance (keyword : String) (body body' : Speller) [Alike (n - 1) body body'] :
    Alike n (declaredType read keyword body) (declaredType read' keyword body') := by
  dsimp only [declaredType]
  infer_instance

instance (ts shown : Spelling) : Alike n (externItem read ts shown) (externItem read' ts shown) := by
  dsimp only [externItem]
  infer_instance

instance (ts shown : Spelling) : Alike n (unsafeItem read ts shown) (unsafeItem read' ts shown) := by
  dsimp only [unsafeItem]
  infer_instance

instance : Alike n (itemRule read) (itemRule read') := by
  dsimp only [itemRule]
  infer_instance

instance (before front : Spelling) : Alike n (itemAfter read before front) (itemAfter read' before front) := by
  dsimp only [itemAfter]
  infer_instance

instance : Alike n (item read) (item read') := by
  dsimp only [item]
  infer_instance

/-! ## Statements -/

instance : Alike n (localValue read) (localValue read') := by
  dsimp only [localValue]
  infer_instance

instance : Alike n (localStatement read) (localStatement read') := by
  dsimp only [localStatement]
  infer_instance

variable [Alike n (read .standing) (read' .standing)]

instance (front : Spelling) : Alike n (expressionStatement read front) (expressionStatement read' front) := by
  dsimp only [expressionStatement]
  infer_instance

instance : Alike n (statement read) (statement read') := by
  dsimp only [statement]
  refine .bind_of_forall inferInstance fun before => ?_
  refine .bind_of_forall inferInstance fun front => ?_
  refine .bind_of_forall inferInstance fun ts => ?_
  split <;> infer_instance

instance : Alike n (statementsWithin read steps) (statementsWithin read' steps) := by
  induction steps with
  | zero => exact .refl _
  | succ steps ih =>
    dsimp only [statementsWithin]
    infer_instance

instance : Alike n (statements read) (statements read') := by
  dsimp only [statements]
  infer_instance

end Concord.Source.Grammar
