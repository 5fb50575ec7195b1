import Concord.Proofs.KeyGroup

/-!
# Groups as they are written

An attribute is read group by group. Reading stops at the first group that cannot be read on; the groups in which tokens
are left over are noticed at the end only, so they count after it.
-/

namespace Concord.Source

open Concord.Source.Parser

variable (readers : Readers)

/-- A group as it is written in an attribute. -/
inductive WrittenGroup where
  /-- Words with a list in parentheses. -/
  | listed (path : NamePath) (content : Spelling)
  /-- Tokens up to the end of the attribute that do not start with a group and a comma. -/
  | misshapen (tokens : Spelling)

namespace WrittenGroup

def tokens : WrittenGroup → Spelling
  | listed path content => path.spelling ++ [.parens content]
  | misshapen ts => ts

/-- The group is well formed and lists the items of `g`: its key is known, and no token is left over in its list. -/
def Lists : WrittenGroup → KeyGroup → Prop
  | listed path content, g => path.isName g.key.name = true ∧ g.Listed readers content none
  | misshapen _, _ => False

end WrittenGroup

section

variable {readers} {path : NamePath} {content rest ts : Spelling} {glued : Bool} {stray : Option Delimiter}
  {g : WrittenGroup} {gs : List WrittenGroup} {x : KeyGroup} {e : SyntaxError}

namespace WrittenGroup

theorem Lists.run (h : (listed path content).Lists readers x) :
    (KeyGroup.itemsFor readers path).run content = .ok ⟨x, [], none⟩ :=
  KeyGroup.run_itemsFor_eq_ok_iff.2 ⟨rfl, h.1, h.2⟩

end WrittenGroup

namespace Written

open WrittenGroup

end Written

end

end Concord.Source
