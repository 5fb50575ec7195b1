import Concord.Source.Registration.Readers

/-!
# Call signatures

A function type is a call signature if it is not variadic, has at most four parameters, and names its result.
-/

namespace Concord.Source

/-- A call signature: the types of its parameters and of its result. -/
structure CallSignature where
  parameters : List Spelling
  result : Spelling
  deriving Repr

namespace CallSignature

/-- The largest number of parameters. -/
def mostParameters : Nat := 4

/-- The call signature that a function type is. Of several faults the variadic mark counts first and the missing result
last. -/
def ofFunctionType (f : FunctionType) : Except SyntaxError CallSignature :=
  if f.variadic.isSome then throw .variadicSignature
  else if mostParameters < f.parameters.length then throw (.tooManyParameters mostParameters)
  else
    match f.result with
    | some result => return { parameters := f.parameters.map fun (p, _) => p.type, result }
    | none => throw .returnTypeMissing

/-- A function type can be a call signature. -/
def Representable (f : FunctionType) : Prop :=
  f.variadic = none ∧ f.parameters.length ≤ mostParameters ∧ f.result.isSome

/-- What a call signature keeps of a function type: the types of its parameters, without their names, and its result. -/
structure Reduces (f : FunctionType) (s : CallSignature) : Prop where
  representable : Representable f
  parameters : s.parameters = f.parameters.map fun (p, _) => p.type
  result : f.result = some s.result

theorem ofFunctionType_eq_ok_iff {f : FunctionType} {s : CallSignature} : ofFunctionType f = .ok s ↔ Reduces f s := by
  obtain ⟨lead, parameters, variadic, result⟩ := f
  obtain ⟨types, answer⟩ := s
  constructor
  · intro h
    simp only [ofFunctionType] at h
    split at h
    case isTrue => cases h
    case isFalse plain =>
      split at h
      case isTrue => cases h
      case isFalse few =>
        cases result with
        | none => cases h
        | some result =>
          cases h
          exact ⟨⟨by simpa using plain, Nat.le_of_not_lt few, rfl⟩, rfl, rfl⟩
  · rintro ⟨⟨plain, few, -⟩, types, answer⟩
    dsimp only at plain few types answer
    subst plain types answer
    simp only [ofFunctionType, Nat.not_lt_of_le few, Option.isSome_none]
    rfl

/-- Reads a call signature. -/
def parser (readers : Readers) : Parser CallSignature := do ofFunctionType (← readers.functionType)

/-- A signature is written like a function type without modifiers and names. -/
def spelling (s : CallSignature) : Spelling :=
  Spelling.word "fn" ++ [.parens (Spelling.commas s.parameters)] ++ Spelling.sign "->" ++ s.result

end CallSignature

end Concord.Source
