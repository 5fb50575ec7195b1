import Concord.Identity.Stream

/-!
# Identities

An identity is a list of chunks, each a stream of which sixteen nibbles count. Comparison walks both lists together;
the empty list is the end, which equals only itself.
-/

namespace Concord

/-- The chunks of an identity string. -/
def Identity := List NibbleStream

namespace Identity

/-- The identity without chunks. -/
def done : Identity := []

/-- One more chunk in front. -/
def chunk (head : NibbleStream) (rest : Identity) : Identity := List.cons head rest

def isDone : Identity → Bool
  | [] => true
  | _ :: _ => false

/-- The first chunk; past the end a stream of zeros. -/
def head : Identity → NibbleStream
  | [] => .constant Nibble.zero
  | c :: _ => c

/-- The chunks after the first; the end is its own tail. -/
def tail : Identity → Identity
  | [] => []
  | _ :: r => r

/-- The number of nibbles of a chunk that are compared. -/
def chunkNibbles : Nat := 16

/-- Both identities have the same number of chunks, and the chunks agree in turn. -/
def same : Identity → Identity → Bool
  | [], j => j.isDone
  | c :: r, j => !j.isDone && NibbleStream.agree chunkNibbles c j.head && same r j.tail

/-- The answer of a comparison that is only made where `required` holds. -/
def sameWhere (required : Bool) (i j : Identity) : Bool := required && same i j

@[simp] theorem same_nil_left (j : Identity) : same [] j = j.isDone := rfl

@[simp] theorem same_cons_nil (c : NibbleStream) (r : Identity) : same (c :: r) [] = false := rfl

@[simp] theorem same_cons_cons (c d : NibbleStream) (r s : Identity) :
    same (c :: r) (d :: s) = (NibbleStream.agree chunkNibbles c d && same r s) := rfl

@[simp] theorem same_self (i : Identity) : same i i = true := by
  induction i with
  | nil => rfl
  | cons c r ih =>
    calc
      same (c :: r) (c :: r) = (NibbleStream.agree chunkNibbles c c && same r r) := same_cons_cons c c r r
      _ = true := by simp only [NibbleStream.agree_self, Bool.true_and]; exact ih

end Identity

end Concord
