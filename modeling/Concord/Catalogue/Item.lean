import Concord.Ty.Basic

/-!
# The objects of the catalogue

The catalogue is a worked table: the arithmetic objects, and classes that between them register every kind of thing a
class can register. Here are their names and paths.
-/

namespace Concord

namespace Catalogue

/-- A registered object of the catalogue. -/
inductive Item where
  | bool | i8 | u8 | i16 | u16 | i32 | u32 | i64 | u64 | f32 | f64 | aS | bS | cS | base | derived
  | notDerived | grand | parent | child | mixin | leaf | dLeft | dRight | diamond | intLike | mode | switch
  | toInt | toChild | multi | subToInt | fromParent | subFromParent | ping | pong | hen | egg | x | y | z | w
  | implicitToX | oneWayA | oneWayB | spec1 | lopsided | a | b | c | d | ours | theirs | joint | qualified
  | head | tail | other | onlyA | onlyB | crParent | crChild | rules | celsius | warm | tag | ordOnly | mixed
  | flag | subFlag | feet | meters | less | subLess | visitor | factory | widget | gadget | assembler
  | overload | cmp | plain | wide | half | odd | twinA | twinB | twinC | twinD | longA | longB | longC
  | longD
  deriving DecidableEq, Repr

namespace Item

/-- The path that an item is written with. -/
def path : Item → String
  | bool => "bool"
  | i8 => "i8"
  | u8 => "u8"
  | i16 => "i16"
  | u16 => "u16"
  | i32 => "i32"
  | u32 => "u32"
  | i64 => "i64"
  | u64 => "u64"
  | f32 => "f32"
  | f64 => "f64"
  | aS => "a::S"
  | bS => "b::S"
  | cS => "c::S"
  | base => "Base"
  | derived => "Derived"
  | notDerived => "NotDerived"
  | grand => "Grand"
  | parent => "Parent"
  | child => "Child"
  | mixin => "Mixin"
  | leaf => "Leaf"
  | dLeft => "DLeft"
  | dRight => "DRight"
  | diamond => "Diamond"
  | intLike => "IntLike"
  | mode => "Mode"
  | switch => "Switch"
  | toInt => "ToInt"
  | toChild => "ToChild"
  | multi => "Multi"
  | subToInt => "SubToInt"
  | fromParent => "FromParent"
  | subFromParent => "SubFromParent"
  | ping => "Ping"
  | pong => "Pong"
  | hen => "Hen"
  | egg => "Egg"
  | x => "X"
  | y => "Y"
  | z => "Z"
  | w => "W"
  | implicitToX => "ImplicitToX"
  | oneWayA => "OneWayA"
  | oneWayB => "OneWayB"
  | spec1 => "Spec1"
  | lopsided => "Lopsided"
  | a => "A"
  | b => "B"
  | c => "C"
  | d => "D"
  | ours => "Ours"
  | theirs => "Theirs"
  | joint => "Joint"
  | qualified => "Qualified"
  | head => "Head"
  | tail => "Tail"
  | other => "Other"
  | onlyA => "OnlyA"
  | onlyB => "OnlyB"
  | crParent => "CrParent"
  | crChild => "CrChild"
  | rules => "Rules"
  | celsius => "Celsius"
  | warm => "Warm"
  | tag => "Tag"
  | ordOnly => "OrdOnly"
  | mixed => "Mixed"
  | flag => "Flag"
  | subFlag => "SubFlag"
  | feet => "Feet"
  | meters => "Meters"
  | less => "Less"
  | subLess => "SubLess"
  | visitor => "Visitor"
  | factory => "Factory"
  | widget => "Widget"
  | gadget => "Gadget"
  | assembler => "Assembler"
  | overload => "Overload"
  | cmp => "Cmp"
  | plain => "Plain"
  | wide => "Wide"
  | half => "Half"
  | odd => "Odd"
  | twinA => "TwinA"
  | twinB => "TwinB"
  | twinC => "TwinC"
  | twinD => "TwinD"
  | longA => "LongA"
  | longB => "LongB"
  | longC => "LongC"
  | longD => "LongD"

/-- Every item, in the order of the declaration. -/
def all : List Item :=
  [bool, i8, u8, i16, u16, i32, u32, i64, u64, f32, f64, aS, bS, cS, base, derived, notDerived, grand,
    parent, child, mixin, leaf, dLeft, dRight, diamond, intLike, mode, switch, toInt, toChild, multi,
    subToInt, fromParent, subFromParent, ping, pong, hen, egg, x, y, z, w, implicitToX, oneWayA, oneWayB,
    spec1, lopsided, a, b, c, d, ours, theirs, joint, qualified, head, tail, other, onlyA, onlyB, crParent,
    crChild, rules, celsius, warm, tag, ordOnly, mixed, flag, subFlag, feet, meters, less, subLess, visitor,
    factory, widget, gadget, assembler, overload, cmp, plain, wide, half, odd, twinA, twinB, twinC, twinD,
    longA, longB, longC, longD]

theorem getElem?_all (i : Item) : all[i.ctorIdx]? = some i := by
  cases i <;> rfl

theorem mem_all (i : Item) : i ∈ all := List.mem_of_getElem? (getElem?_all i)

/-- The item with a path. -/
def ofPath? (path : String) : Option Item := all.find? (·.path == path)

end Item

end Catalogue

end Concord
