import Concord.Catalogue.Numbered
import Mathlib.Data.List.Forall2

/-!
# Sameness is an equivalence

Objects are compared from the left: a digit on the right selects from the row of the digit on the left, and the chunks on
the left say how far the chunks on the right are read. What this decides has no sides: the digits that count are equal one
by one, and there are as many chunks. No object with a chunk is taken for the sentinel, which has none.
-/

namespace Concord

namespace Nibble

/-- The table that marks the slot of a nibble and no other. -/
def row (n : Nibble) : Vector Bool 16 := Vector.ofFn (n == ·)

theorem pick_row (m n : Nibble) : m.pick n.row = (n == m) := by
  simp [pick, row]

end Nibble

namespace NibbleStream

/-- The comparison as a walk over heads and tails, in which the right head picks from the row of the left one. -/
def walk : Nat → NibbleStream → NibbleStream → Bool
  | 0, _, _ => true
  | n + 1, s, t => t.head.pick s.head.row && walk n s.tail t.tail

/-- The walk decides whether initial segments agree. -/
theorem walk_eq_agree (n : Nat) (s t : NibbleStream) : walk n s t = agree n s t := by
  induction n generalizing s t with
  | zero => rfl
  | succ n ih => rw [walk, ih, Nibble.pick_row, agree_succ]

theorem agree_equivalence (n : Nat) : Equivalence fun s t => agree n s t = true where
  refl := agree_self n
  symm h := agree_iff.2 fun i hi => (agree_iff.1 h i hi).symm
  trans h h' := agree_iff.2 fun i hi => (agree_iff.1 h i hi).trans (agree_iff.1 h' i hi)

end NibbleStream

namespace Identity

/-- Identities are the same if their chunks agree in pairs, with none left over on either side. -/
theorem same_iff {i j : Identity} :
    same i j = true ↔ List.Forall₂ (fun c d => NibbleStream.agree chunkNibbles c d = true) i j := by
  induction i generalizing j with
  | nil =>
    cases j with
    | nil => exact iff_of_true rfl .nil
    | cons d s => exact iff_of_false Bool.false_ne_true nofun
  | cons c r ih =>
    cases j with
    | nil => exact iff_of_false Bool.false_ne_true nofun
    | cons d s =>
      calc
        same (c :: r) (d :: s) = true ↔ (NibbleStream.agree chunkNibbles c d && same r s) = true := Iff.rfl
        _ ↔ NibbleStream.agree chunkNibbles c d = true ∧ same r s = true := Bool.and_eq_true_iff
        _ ↔ NibbleStream.agree chunkNibbles c d = true ∧ List.Forall₂ _ r s := and_congr_right' ih
        _ ↔ List.Forall₂ _ (c :: r) (d :: s) := by rw [List.forall₂_cons]

theorem same_symm {i j : Identity} (h : same i j = true) : same j i = true := by
  rw [same_iff] at h ⊢
  apply List.Forall₂.flip
  exact h.imp fun _ _ agree => (NibbleStream.agree_equivalence _).symm agree

/-- By induction on the pairs of the first comparison, which say where the second one ends. -/
theorem same_trans {i j k : Identity} (h : same i j = true) (h' : same j k = true) : same i k = true := by
  rw [same_iff] at h h' ⊢
  induction h generalizing k with
  | nil => exact h'
  | cons hchunk _ ih =>
    cases h' with
    | cons hchunk' hrest => exact .cons ((NibbleStream.agree_equivalence _).trans hchunk hchunk') (ih hrest)

theorem same_done_eq_false {i : Identity} (chunked : i ≠ done) : same i done = false ∧ same done i = false := by
  cases i with
  | nil => contradiction
  | cons c r => exact ⟨rfl, rfl⟩

end Identity

namespace Table

variable {ι : Type} (T : Table ι)

theorem sameObject_equivalence : Equivalence fun a b => T.sameObject a b = true where
  refl := T.sameObject_self
  symm {a b} h := by
    rw [sameObject_eq_and, Bool.and_eq_true] at h ⊢
    obtain ⟨hstream, hidentity⟩ := h
    exact ⟨(NibbleStream.agree_equivalence _).symm hstream, Identity.same_symm hidentity⟩
  trans {a b c} h h' := by
    rw [sameObject_eq_and, Bool.and_eq_true] at h h' ⊢
    obtain ⟨hstream, hidentity⟩ := h
    obtain ⟨hstream', hidentity'⟩ := h'
    exact ⟨(NibbleStream.agree_equivalence _).trans hstream hstream', Identity.same_trans hidentity hidentity'⟩

theorem isSame_iff {t u : Ty ι} :
    T.isSame t u = true ↔ T.sameObject t.object u.object = true ∧ t.cv = u.cv ∧ t.kind = u.kind := by
  simp [isSame]

theorem isSame_equivalence : Equivalence fun t u => T.isSame t u = true where
  refl := T.isSame_self
  symm {t u} h := by
    obtain ⟨hobject, hcv, hkind⟩ := T.isSame_iff.1 h
    exact T.isSame_iff.2 ⟨T.sameObject_equivalence.symm hobject, hcv.symm, hkind.symm⟩
  trans {t u v} h h' := by
    obtain ⟨hobject, hcv, hkind⟩ := T.isSame_iff.1 h
    obtain ⟨hobject', hcv', hkind'⟩ := T.isSame_iff.1 h'
    exact T.isSame_iff.2
      ⟨T.sameObject_equivalence.trans hobject hobject', hcv.trans hcv', hkind.trans hkind'⟩

/-- The streams do not matter here: they may be the same as the sentinel's. -/
theorem sameObject_nonesuch_eq_false {o : Object ι} (chunked : T.identity o ≠ .done) :
    T.sameObject o .nonesuch = false ∧ T.sameObject .nonesuch o = false := by
  obtain ⟨hleft, hright⟩ := Identity.same_done_eq_false chunked
  rw [sameObject_eq_and, sameObject_eq_and]
  constructor
  · exact (congrArg (T.sameStream o .nonesuch && ·) hleft).trans (Bool.and_false _)
  · exact (congrArg (T.sameStream .nonesuch o && ·) hright).trans (Bool.and_false _)

/-- Whatever streams and chunks are registered, sameness of objects and of types is an equivalence, and an object with at
least one chunk is never taken for the sentinel, on either side. -/
theorem sameness_equivalence :
    (Equivalence fun a b : Object ι => T.sameObject a b = true) ∧
      (Equivalence fun t u : Ty ι => T.isSame t u = true) ∧
      ∀ o : Object ι, T.identity o ≠ .done →
        T.sameObject o .nonesuch = false ∧ T.sameObject .nonesuch o = false :=
  ⟨T.sameObject_equivalence, T.isSame_equivalence, fun _ => T.sameObject_nonesuch_eq_false⟩

end Table

namespace Catalogue

/-- The catalogue with the sentinel's stream for every item, and as many chunks of zeros as an item's number says. -/
def zeros : Table Item where
  registration i :=
    { registration i with
      stream := .constant Nibble.zero
      identity := List.replicate (number (.registered i)) (.constant Nibble.zero) }
  members := Item.all
  mem_members := Item.mem_all
  promoted r := .registered (promoted r)
  promoted_builtin r := ⟨promoted r, rfl, { builtin_promoted r with }⟩
  truth := .registered .bool
  truth_builtin := ⟨.bool, rfl, { builtin_bool with }⟩

/-- Zeros alone tell no object from the sentinel, but the number of chunks does. -/
theorem sameness_equivalence_zeros :
    (zeros.sameStream (object .widget) .nonesuch = true ∧ zeros.identity (object .widget) ≠ .done) ∧
      (zeros.sameObject (object .widget) .nonesuch = false ∧ zeros.sameObject .nonesuch (object .widget) = false) ∧
      (zeros.isSame (spelledOut .widget) (value .widget) = true ∧
        zeros.isSame (value .widget) (spelledOut .widget) = true) := by
  obtain ⟨-, htype, hobject⟩ := Table.sameness_equivalence zeros
  have chunked : zeros.identity (object .widget) ≠ .done := by
    intro h
    cases h
  have spelled : zeros.isSame (spelledOut .widget) (value .widget) = true := by decide
  exact ⟨⟨by decide, chunked⟩, hobject _ chunked, spelled, htype.symm spelled⟩

end Catalogue

end Concord
