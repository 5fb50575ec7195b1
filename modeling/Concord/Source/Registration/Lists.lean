import Concord.Source.Registration.Group

/-!
# What a declaration registers

Eight lists, each with the items of its key from all groups in order. Groups of different keys do not affect each other.
-/

namespace Concord.Source

/-- The lists that are registered for an object. -/
structure ObjectLists where
  bases : List Spelling := []
  convertsTo : List Spelling := []
  convertsFrom : List Spelling := []
  commonType : List Entry := []
  commonReference : List Entry := []
  equality : List Spelling := []
  ordering : List Spelling := []
  calls : List CallSignature := []
  deriving Repr

namespace ObjectLists

/-- The items of a group come after those that are there. -/
def add (l : ObjectLists) : KeyGroup → ObjectLists
  | .bases types => { l with bases := l.bases ++ types }
  | .convertsTo types => { l with convertsTo := l.convertsTo ++ types }
  | .convertsFrom types => { l with convertsFrom := l.convertsFrom ++ types }
  | .commonType entries => { l with commonType := l.commonType ++ entries }
  | .commonReference entries => { l with commonReference := l.commonReference ++ entries }
  | .equality types => { l with equality := l.equality ++ types }
  | .ordering types => { l with ordering := l.ordering ++ types }
  | .calls signatures => { l with calls := l.calls ++ signatures }

/-- The lists that some groups make, in order. -/
def ofGroups (groups : List KeyGroup) : ObjectLists := groups.foldl add {}

@[simp] theorem ofGroups_nil : ofGroups [] = {} := rfl

end ObjectLists

/-- What a declaration registers. Only structures and enumerations without generic parameters register anything. -/
def Declaration.lists (readers : Readers) (d : Declaration) : Except SyntaxError ObjectLists := do
  if d.isGeneric then throw .genericDeclaration
  if d.form = .union then throw .unionDeclaration
  return ObjectLists.ofGroups (← d.groups readers)

end Concord.Source
