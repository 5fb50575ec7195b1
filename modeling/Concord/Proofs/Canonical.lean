import Concord.CommonReference
import Concord.Proofs.Conditional

/-!
# Answers in the canonical spelling

Operands and entries come in any spelling. The rules that resolve two types answer in the canonical one, so two answers
that denote one type are spelled alike, and every failure is the sentinel itself.
-/

namespace Concord

theorem Ty.canonical_orElse {ι : Type} {t : Ty ι} {next : Unit → Ty ι} (ht : t.Canonical)
    (hnext : (next ()).Canonical) : (t.orElse next).Canonical := by
  unfold orElse
  split
  · exact ht
  · exact hnext

namespace Table

variable {ι : Type} {T : Table ι}

theorem canonical_lvalueReference (a b : Ty ι) : (T.lvalueReference a b).Canonical := by
  unfold lvalueReference
  dsimp only
  split
  · exact canonical_conditional _ _
  · exact Ty.canonical_nonesuch

theorem canonical_rvalueReference (a b : Ty ι) : (T.rvalueReference a b).Canonical := by
  unfold rvalueReference
  dsimp only
  split
  · exact Ty.canonical_build _ _ _
  · exact Ty.canonical_nonesuch

theorem canonical_mixedReference (a b : Ty ι) : (T.mixedReference a b).Canonical := by
  unfold mixedReference
  dsimp only
  split
  · exact canonical_lvalueReference _ _
  · exact Ty.canonical_nonesuch

theorem canonical_simpleReference (t u : Ty ι) : (T.simpleReference t u).Canonical := by
  unfold simpleReference
  dsimp only
  split
  · exact canonical_lvalueReference _ _
  · exact canonical_rvalueReference _ _
  · exact canonical_mixedReference _ _
  · exact canonical_mixedReference _ _
  · exact Ty.canonical_nonesuch

theorem canonical_commonTypeEntry (t u : Ty ι) : (T.commonTypeEntry t u).Canonical := by
  unfold commonTypeEntry
  split
  · exact Ty.canonical_canon _
  · exact Ty.canonical_nonesuch

theorem canonical_commonReferenceEntry (t u : Ty ι) : (T.commonReferenceEntry t u).Canonical := by
  unfold commonReferenceEntry
  split
  · exact Ty.canonical_canon _
  · exact Ty.canonical_nonesuch

/-- Decay leaves an object alone, which is a canonical spelling even of the sentinel. -/
theorem canonical_commonType (t u : Ty ι) : (T.commonType t u).Canonical := by
  unfold commonType
  dsimp only
  split
  · apply Ty.canonical_orElse (canonical_commonTypeEntry _ _)
    exact Ty.canonical_orElse (.plain _) (.plain _)
  · exact Ty.canonical_nonesuch

theorem canonical_commonReference (t u : Ty ι) : (T.commonReference t u).Canonical := by
  unfold commonReference
  split
  · apply Ty.canonical_orElse (canonical_simpleReference t u)
    apply Ty.canonical_orElse (canonical_commonReferenceEntry t u)
    exact Ty.canonical_orElse (canonical_conditional t u) (canonical_commonType t u)
  · exact Ty.canonical_nonesuch

end Table

end Concord
