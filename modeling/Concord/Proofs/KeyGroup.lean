import Concord.Proofs.CommaList
import Concord.Source.Expansion.Registration

/-!
# Reading a group

A group is read wherever it stands: its key is the path in front of the parentheses, and its items are read from what is
in them and nothing else. What is well formed is said apart from the readers of groups and lists, by the grammar of one
item only.
-/

namespace Concord.Source

variable {ts rest content : Spelling} {stray : Option Delimiter}

/-! ## Delimiters -/

namespace Parser

variable {α : Type} {d : Delimiter} {p : Parser α} {a b : α}

end Parser

/-! ## Paths -/

namespace Spelling

end Spelling

theorem Key.ofPath?_eq_some_iff {p : NamePath} {k : Key} : ofPath? p = some k ↔ p.isName k.name = true := by
  constructor
  · exact List.find?_some
  · intro h
    rw [NamePath.isName_iff.1 h]
    exact ofPath?_name k

namespace KeyGroup

open Concord.Source.Parser

variable {readers : Readers}

/-- Tokens are the items of a group with commas between them; of a function type a signature keeps its types. -/
def Listed (readers : Readers) : KeyGroup → Spelling → Option Delimiter → Prop
  | .bases types | .convertsTo types | .convertsFrom types | .equality types | .ordering types =>
    fun ts stray => CommaList readers.type ts types stray
  | .commonType entries | .commonReference entries => fun ts stray => CommaList (Entry.parser readers) ts entries stray
  | .calls signatures => fun ts stray =>
    ∃ functions, CommaList readers.functionType ts functions stray ∧
      List.Forall₂ CallSignature.Reduces functions signatures

theorem commaList_signatures {signatures : List CallSignature} :
    CommaList (CallSignature.parser readers) ts signatures stray ↔ Listed readers (.calls signatures) ts stray := by
  simp only [CallSignature.parser, commaList_check_iff, CallSignature.ofFunctionType_eq_ok_iff, Listed]

theorem run_itemsOf_eq_ok_iff {k : Key} {a : Answer KeyGroup} :
    (itemsOf readers k).run ts = .ok a ↔ a.rest = [] ∧ a.value.key = k ∧ a.value.Listed readers ts a.stray := by
  obtain ⟨g, rest, stray⟩ := a
  cases k <;>
    simp only [itemsOf, Readers.typeList, Readers.entryList, Readers.signatureList, run_map_commaSeparated_eq_ok_iff,
      commaList_signatures] <;>
    cases g <;> simp [key, Listed]

/-- A group that is written is a key with a list of its items in which nothing is left over. -/
theorem run_itemsFor_eq_ok_iff {path : NamePath} {a : Answer KeyGroup} :
    (itemsFor readers path).run ts = .ok a ↔
      a.rest = [] ∧ path.isName a.value.key.name = true ∧ a.value.Listed readers ts a.stray := by
  cases known : Key.ofPath? path with
  | none =>
    have other (k : Key) : ¬ path.isName k.name = true := fun h => by simp [Key.ofPath?_eq_some_iff.2 h] at known
    simp [itemsFor, known, other]
  | some k =>
    have name (k' : Key) : path.isName k'.name = true ↔ k' = k := by
      rw [← Key.ofPath?_eq_some_iff, known, Option.some_inj, eq_comm]
    simp only [itemsFor, known, name, run_itemsOf_eq_ok_iff]

/-! ## Groups -/

end KeyGroup

end Concord.Source
