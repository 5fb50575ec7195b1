import Concord.Proofs.Reading
import Concord.Source.Grammar.Type

/-!
# Rules for types

The rules for paths, attributes, bounds, function types, generic parameters and types, by two readers of phrases that answer
alike to fewer than `n - 1` tokens. A rule that takes a token before it asks for a phrase answers alike to fewer than `n`,
one that can start with a phrase only to as many as the readers. A type takes a token of its own first; a generic argument
can start with a type.
-/

namespace Concord.Source.Grammar

open Concord.Source.Parser

set_option synthInstance.maxSize 1000

variable {n : Nat} {read read' : Reader} (plus inExpression : Bool) (place : BoundPlace) (stop : Spelling → Bool)

/-! ## Phrases by themselves -/

instance (p : Phrase) [Alike n (read p) (read' p)] : Alike n (spelledBy read p) (spelledBy read' p) := by
  dsimp only [spelledBy]
  infer_instance

instance [Alike n (read (.type plus)) (read' (.type plus))] : Alike n (typeBy read plus) (typeBy read' plus) := by
  dsimp only [typeBy]
  infer_instance

instance (records : Bool) [Alike n (read (.expression records)) (read' (.expression records))] :
    Alike n (expressionBy read records) (expressionBy read' records) := by
  dsimp only [expressionBy]
  infer_instance

variable [∀ p, Alike (n - 1) (read p) (read' p)]

instance (front front' : Speller) [Alike (n - 1) front front'] : Alike n (blockBy read front) (blockBy read' front') := by
  dsimp only [blockBy]
  infer_instance

instance : Alike n (block read) (block read') := by
  dsimp only [block]
  infer_instance

/-! ## Paths -/

instance : Alike n (result read plus) (result read' plus) := by
  dsimp only [result]
  infer_instance

instance : Alike n (callArguments read) (callArguments read') := by
  dsimp only [callArguments]
  infer_instance

instance : Alike (n - 1) (argument read) (argument read') := by
  dsimp only [argument]
  infer_instance

instance : Alike n (angleArguments read) (angleArguments read') := by
  dsimp only [angleArguments]
  infer_instance

instance : Alike n (segment read inExpression) (segment read' inExpression) := by
  dsimp only [segment]
  infer_instance

instance : Alike n (plainPath read inExpression) (plainPath read' inExpression) := by
  dsimp only [plainPath]
  infer_instance

instance : Alike n (path read inExpression) (path read' inExpression) := by
  dsimp only [path]
  infer_instance

instance (p : ArgumentPath) : Alike n (withCallArguments read p) (withCallArguments read' p) := by
  dsimp only [withCallArguments]
  infer_instance

/-! ## Attributes -/

instance : Alike (n - 1) (attributeValue read) (attributeValue read') := by
  dsimp only [attributeValue]
  refine .bind_of_forall inferInstance fun value => ?_
  split <;> infer_instance

instance : Alike n (attributeArguments read) (attributeArguments read') := by
  dsimp only [attributeArguments]
  refine .bind_of_forall inferInstance fun ts => ?_
  split <;> infer_instance

instance : Alike n (attributeBody read) (attributeBody read') := by
  dsimp only [attributeBody]
  infer_instance

instance : Alike n (attributes read) (attributes read') := by
  dsimp only [attributes, oneAttribute]
  infer_instance

instance : Alike n (notes read) (notes read') := by
  dsimp only [notes]
  infer_instance

instance : Alike n (innerNotes read) (innerNotes read') := by
  dsimp only [innerNotes]
  infer_instance

/-! ## Bounds -/

instance : Alike n (binder read) (binder read') := by
  dsimp only [binder]
  infer_instance

instance : Alike n (optionalBinder read) (optionalBinder read') := by
  dsimp only [optionalBinder]
  infer_instance

instance : Alike n (traitBound read place) (traitBound read' place) := by
  dsimp only [traitBound]
  infer_instance

instance : Alike n (bound read place) (bound read' place) := by
  dsimp only [bound]
  infer_instance

instance : Alike n (moreBounds read place) (moreBounds read' place) := by
  dsimp only [moreBounds]
  infer_instance

instance : Alike n (bounds read plus place) (bounds read' plus place) := by
  dsimp only [bounds]
  infer_instance

instance : Alike n (boundsUpTo read stop place) (boundsUpTo read' stop place) := by
  dsimp only [boundsUpTo]
  infer_instance

instance : Alike n (boundsOnlyTo read stop place) (boundsOnlyTo read' stop place) := by
  dsimp only [boundsOnlyTo]
  infer_instance

/-! ## Function types -/

instance (isFirst : Bool) (attributes : Spelling) :
    Alike (n - 1) (parameter read isFirst attributes) (parameter read' isFirst attributes) := by
  dsimp only [parameter]
  infer_instance

instance (steps : Nat) (isFirst : Bool) :
    Alike (n - 1) (parametersWithin read steps isFirst) (parametersWithin read' steps isFirst) := by
  induction steps generalizing isFirst with
  | zero => exact .refl _
  | succ steps ih =>
    dsimp only [parametersWithin]
    infer_instance

instance : Alike n (functionType read) (functionType read') := by
  dsimp only [functionType, functionLead]
  infer_instance

/-! ## Generic parameters -/

omit [∀ p, Alike (n - 1) (read p) (read' p)] in
instance (bounds bounds' : Speller) [Alike (n - 1) bounds bounds'] :
    Alike n (colonBounds bounds) (colonBounds bounds') := by
  dsimp only [colonBounds]
  infer_instance

instance : Alike n (constant read) (constant read') := by
  dsimp only [constant]
  infer_instance

instance : Alike n (typeParameter read) (typeParameter read') := by
  dsimp only [typeParameter]
  infer_instance

instance : Alike n (constantParameter read) (constantParameter read') := by
  dsimp only [constantParameter]
  infer_instance

instance : Alike n (boundParameter read) (boundParameter read') := by
  dsimp only [boundParameter]
  infer_instance

instance : Alike n (generics read) (generics read') := by
  dsimp only [generics, declaredParameter]
  infer_instance

instance : Alike (n - 1) (condition read) (condition read') := by
  dsimp only [condition]
  infer_instance

instance : Alike n (conditions read) (conditions read') := by
  dsimp only [conditions]
  infer_instance

instance : Alike n (optionalConditions read) (optionalConditions read') := by
  dsimp only [optionalConditions]
  infer_instance

/-! ## Types -/

instance : Alike n (objectBounds read plus) (objectBounds read' plus) := by
  dsimp only [objectBounds]
  infer_instance

instance : Alike n (boundsAfter read) (boundsAfter read') := by
  dsimp only [boundsAfter]
  infer_instance

instance : Alike (n - 1) (inParentheses read) (inParentheses read') := by
  dsimp only [inParentheses]
  infer_instance

instance : Alike n (parenthesized read plus) (parenthesized read' plus) := by
  dsimp only [parenthesized]
  refine .groupThen_of_forall inferInstance fun inside => ?_
  cases inside <;> infer_instance

instance (binders : Spelling) : Alike n (pathType read plus binders) (pathType read' plus binders) := by
  dsimp only [pathType]
  infer_instance

instance (lead : Speller) [Consumes lead] : Alike n (indirect read lead) (indirect read' lead) := by
  dsimp only [indirect]
  infer_instance

instance : Alike n (dynamicType read plus) (dynamicType read' plus) := by
  dsimp only [dynamicType]
  infer_instance

instance : Alike n (opaqueType read plus) (opaqueType read' plus) := by
  dsimp only [opaqueType]
  infer_instance

instance : Alike n (boundType read plus) (boundType read' plus) := by
  dsimp only [boundType]
  infer_instance

instance : Alike n (type read plus) (type read' plus) := by
  dsimp only [type, arrayOrSlice]
  infer_instance

instance [Alike n (read (.type true)) (read' (.type true))] :
    Alike n (genericArgument read) (genericArgument read') := by
  dsimp only [genericArgument]
  infer_instance

end Concord.Source.Grammar
