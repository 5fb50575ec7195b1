import Concord.Source.Grammar

/-!
# Readers of types

Registration takes the grammar of types as it is given. All it needs are readers of types and of function types, and that
what a function type names as its result is read as a type.
-/

namespace Concord.Source

/-- The readers of types that registration is given. -/
structure Readers where
  type : Speller
  /-- Reads the type of a result. -/
  resultType : Speller
  functionType : Parser FunctionType
  /-- The result of a function type is read as one. -/
  exists_run_result : ∀ {ts rest : Spelling} {f : FunctionType} {result : Spelling},
    functionType.run ts = .ok ⟨f, rest, none⟩ → f.result = some result →
      ∃ front after, resultType.run front = .ok ⟨result, after, none⟩

/-- The readers of the grammar. -/
def Readers.grammar : Readers where
  type := Parser.type
  resultType := Parser.resultType
  functionType := Parser.functionType
  exists_run_result := Grammar.exists_run_result

end Concord.Source
