import Concord.Proofs.Reading.Items
import Concord.Source.Grammar

/-!
# Phrases in phrases

A phrase is read with a bound on how deeply phrases are nested in it, so that reading ends. The bound has no effect: in a
phrase there are phrases of fewer tokens, and at its start there are phrases of lower rank. So reading follows the rules
of the grammar as they stand, without a bound, and it is the one way to do so.
-/

namespace Concord.Source.Phrase

open Concord.Source.Parser

variable {n depth depth' : Nat} {read read' : Grammar.Reader}

/-- How many phrases can start where a phrase starts, each at the start of the one before. -/
def rank : Phrase → Nat
  | argument | expression _ | standing => 1
  | statements => 2
  | _ => 0

theorem rank_le (p : Phrase) : p.rank ≤ 2 := by
  cases p <;> simp [rank]

/-- A rule asks its reader for phrases after a token, and for phrases of lower rank. -/
theorem alike_rule (p : Phrase) (after : ∀ q, Alike (n - 1) (read q) (read' q))
    (first : ∀ q, q.rank < p.rank → Alike n (read q) (read' q)) : Alike n (rule read p) (rule read' p) := by
  cases p with
  | type plus | parameter | operand records | pattern | fields | imports rooted | item =>
    dsimp only [rule]
    infer_instance
  | argument =>
    have type := first (.type true) Nat.one_pos
    dsimp only [rule]
    infer_instance
  | expression _ | standing =>
    have operand records := first (.operand records) Nat.one_pos
    dsimp only [rule]
    infer_instance
  | statements =>
    have standing := first .standing Nat.one_lt_two
    dsimp only [rule]
    infer_instance

/-- Deep enough bounds are alike. A token is worth three: on the way to fewer tokens the rank can go down twice. -/
theorem alike_within (p : Phrase) (enough : 3 * (n - 1) + p.rank < depth) (enough' : 3 * (n - 1) + p.rank < depth') :
    Alike n (within depth p) (within depth' p) := by
  induction depth generalizing n p depth' with
  | zero => omega
  | succ depth ih =>
    obtain ⟨depth', rfl⟩ := Nat.exists_eq_add_one_of_ne_zero (Nat.ne_zero_of_lt enough')
    refine alike_rule p (fun q => ?_) fun q lower => ih q (by omega) (by omega)
    have := q.rank_le
    match n with
    | 0 | 1 => exact .zero _ _
    | n + 2 => exact ih q (by omega) (by omega)

theorem alike_within_read (p : Phrase) (enough : 3 * (n - 1) + p.rank < depth) :
    Alike n (within depth p) (Phrase.read p) where
  run_eq ts fewer := by
    have := p.rank_le
    have deep : Alike (Token.weights ts + 1) (within depth p) (within (Phrase.depth ts) p) :=
      alike_within p (by omega) (by rw [Phrase.depth]; omega)
    rw [Phrase.read, run_peek_bind]
    exact deep.run_eq ts (Nat.lt_succ_self _)

/-- Reading follows the rules, whatever the bounds on the nesting. -/
theorem read_eq_rule (p : Phrase) : Phrase.read p = rule Phrase.read p := by
  refine Alike.eq_of_forall fun n => ?_
  have deep (q : Phrase) : Alike n (within (3 * n + 3) q) (Phrase.read q) := by
    have := q.rank_le
    exact alike_within_read q (by omega)
  have deeper : Alike n (within (3 * n + 4) p) (Phrase.read p) := by
    have := p.rank_le
    exact alike_within_read p (by omega)
  have ruled : Alike n (within (3 * n + 4) p) (rule Phrase.read p) :=
    alike_rule p (fun q => .pred _ _) fun q _ => deep q
  exact deeper.symm.trans ruled

/-- Readers that follow the rules are alike: by induction on the tokens, and among these on the rank. -/
theorem alike_of_follows (follows : ∀ p, read p = rule read p) (follows' : ∀ p, read' p = rule read' p) (p : Phrase) :
    Alike n (read p) (read' p) := by
  induction n generalizing p with
  | zero => exact .zero _ _
  | succ n ih =>
    induction h : p.rank using Nat.strongRecOn generalizing p with
    | _ rank lower =>
      subst h
      rw [follows, follows']
      exact alike_rule p ih fun q less => lower q.rank less q rfl

/-- The rules of the grammar, which refer to each other, have one reader that follows them. -/
theorem follows_rules_iff : (∀ p, read p = rule read p) ↔ read = Phrase.read := by
  constructor
  · intro follows
    funext p
    exact Alike.eq_of_forall fun n => alike_of_follows follows read_eq_rule p
  · rintro rfl
    exact read_eq_rule

end Concord.Source.Phrase
