import Concord.Catalogue.Item
import Concord.Identity.Encoding
import Concord.Table.Basic

/-!
# The catalogue

The registrations of the catalogue's objects. An object's routing stream and identity are those of its path, except for
the twins, which are given them by hand: some of these count as the same object although they are registered apart.
-/

namespace Concord

namespace Catalogue

/-- An object's own name: the last part of its path. -/
def Item.title (i : Item) : String := (i.path.splitOn "::").getLast?.getD i.path

/-- The registration of a class that declares nothing. -/
def bare (i : Item) : Registration Item where
  title := i.title
  stream := Spelled.routing i.path
  identity := Spelled.identity i.path

/-- The registration of an object of another kind that declares nothing. -/
def ofKind (i : Item) (k : Kind) : Registration Item := { bare i with kind := k }

/-- The registration of a class whose stream and identity are those of two given texts. -/
def twin (i : Item) (stream identity : String) : Registration Item where
  title := i.title
  stream := Spelled.routing stream
  identity := Spelled.identity identity

/-- An item as an object. -/
def object (i : Item) : Object Item := .registered i

/-- Items as a list of objects. -/
def objects (is : List Item) : List (Object Item) := is.map object

/-- An item as a type. -/
def value (i : Item) : Ty Item := .plain (object i)

/-- An item as a type with trivial decorations that are spelled out. -/
def spelledOut (i : Item) : Ty Item := .qualified (object i) .unqualified .none

/-- The lvalue reference to an item. -/
def lvalue (i : Item) : Ty Item := (value i).addLvalueReference

/-- The lvalue reference to an item made `const`. -/
def constLvalue (i : Item) : Ty Item := (value i).constLvalue

/-- The rvalue reference to an item. -/
def rvalue (i : Item) : Ty Item := (value i).rvalue

/-- An entry for common types. -/
def common (key : Item) (result : Ty Item) : Object Item × Ty Item := (object key, result)

/-- An entry for common references. -/
def reference (key : Item) (rule : ReferenceRule Item) : Object Item × ReferenceRule Item := (object key, rule)

/-- The identity text that the long twins share up to single characters. -/
def longText (byte47 byte56 byte79 : String) : String :=
  "0123456789abcdef0123456789abcdefMMMMMMMMMMMMMMM" ++ byte47 ++ "........" ++ byte56 ++ ".......0123456789abcde" ++
    byte79

/-- What each item registers. -/
def registration : Item → Registration Item
  | .bool => ofKind .bool (.unsignedInteger .int)
  | .i8 => ofKind .i8 (.signedInteger .int)
  | .u8 => ofKind .u8 (.unsignedInteger .int)
  | .i16 => ofKind .i16 (.signedInteger .int)
  | .u16 => ofKind .u16 (.unsignedInteger .int)
  | .i32 => ofKind .i32 (.signedInteger .int)
  | .u32 => ofKind .u32 (.unsignedInteger .uint)
  | .i64 => ofKind .i64 (.signedInteger .long)
  | .u64 => ofKind .u64 (.unsignedInteger .ulong)
  | .f32 => ofKind .f32 (.floating .float)
  | .f64 => ofKind .f64 (.floating .double)
  | .aS => bare .aS
  | .bS => bare .bS
  | .cS => { bare .cS with bases := objects [.aS] }
  | .base => bare .base
  | .derived => { bare .derived with bases := objects [.base] }
  | .notDerived => bare .notDerived
  | .grand => bare .grand
  | .parent => { bare .parent with bases := objects [.grand] }
  | .child => { bare .child with bases := objects [.parent] }
  | .mixin => bare .mixin
  | .leaf => { bare .leaf with bases := objects [.child, .mixin] }
  | .dLeft => { bare .dLeft with bases := objects [.grand] }
  | .dRight => { bare .dRight with bases := objects [.grand, .mixin] }
  | .diamond => { bare .diamond with bases := objects [.dLeft, .dRight] }
  | .intLike => { bare .intLike with bases := objects [.i32] }
  | .mode => bare .mode
  | .switch => { bare .switch with convertsFrom := objects [.mode, .u8], convertsTo := objects [.grand] }
  | .toInt => { bare .toInt with convertsTo := objects [.i32] }
  | .toChild => { bare .toChild with convertsTo := objects [.child] }
  | .multi => { bare .multi with convertsTo := objects [.bool, .f64, .derived] }
  | .subToInt => { bare .subToInt with bases := objects [.toInt] }
  | .fromParent => { bare .fromParent with convertsFrom := objects [.parent] }
  | .subFromParent => { bare .subFromParent with bases := objects [.fromParent] }
  | .ping => { bare .ping with convertsTo := objects [.pong] }
  | .pong => { bare .pong with convertsTo := objects [.ping] }
  | .hen => { bare .hen with convertsFrom := objects [.egg] }
  | .egg => { bare .egg with convertsFrom := objects [.hen] }
  | .x => { bare .x with commonTypes := [common .y (value .z)] }
  | .y => { bare .y with commonTypes := [common .x (value .z)] }
  | .z => bare .z
  | .w => bare .w
  | .implicitToX => { bare .implicitToX with convertsTo := objects [.x] }
  | .oneWayA => { bare .oneWayA with commonTypes := [common .oneWayB (value .z)] }
  | .oneWayB => bare .oneWayB
  | .spec1 =>
    { bare .spec1 with
      commonTypes :=
        [common .z (value .w), common .z (value .x), common .spec1 (constLvalue .z),
          common .i32 (spelledOut .w), common .base .nonesuch, common .derived (value .y).addVolatile.rvalue,
          common .base (value .x), common .f64 (value .i8)] }
  | .lopsided => { bare .lopsided with commonTypes := [common .base (value .base)] }
  | .a =>
    { bare .a with
      convertsFrom := objects [.b, .c, .d]
      commonTypes := [common .b (value .a), common .c (value .a), common .d (value .a)] }
  | .b =>
    { bare .b with
      convertsFrom := objects [.i32]
      commonTypes := [common .a (value .a), common .c (value .a), common .d (value .a)] }
  | .c => { bare .c with commonTypes := [common .a (value .a), common .b (value .a)] }
  | .d => { bare .d with convertsFrom := objects [.b, .c], commonTypes := [common .b (value .a)] }
  | .ours => { bare .ours with commonReferences := [reference .theirs (.always (value .joint))] }
  | .theirs => bare .theirs
  | .joint => bare .joint
  | .qualified =>
    { bare .qualified with
      commonReferences :=
        [reference .theirs (.withFirst (value .joint)), reference .ours (.withSecond (value .joint))] }
  | .head =>
    { bare .head with
      commonReferences := [reference .tail (.always (value .joint))]
      commonTypes := [common .tail (value .other)] }
  | .tail => bare .tail
  | .other => bare .other
  | .onlyA => { bare .onlyA with commonTypes := [common .onlyB (value .other)] }
  | .onlyB => bare .onlyB
  | .crParent => { bare .crParent with commonReferences := [reference .crChild (.always (value .other))] }
  | .crChild => { bare .crChild with bases := objects [.crParent] }
  | .rules =>
    { bare .rules with
      commonReferences :=
        [reference .i32 (.always (constLvalue .i32)), reference .i64 (.withFirst (value .joint).addConst),
          reference .u8 (.withSecond (value .joint).addVolatile.rvalue), reference .base (.always .nonesuch),
          reference .base (.always (value .joint)), reference .derived (.always (spelledOut .joint)),
          reference .theirs (.withFirst (lvalue .joint)), reference .theirs (.always (value .joint)),
          reference .rules (.withSecond (value .joint)), reference .f32 (.withFirst .nonesuch)] }
  | .celsius => { bare .celsius with equality := objects [.celsius], ordering := objects [.celsius] }
  | .warm => { bare .warm with bases := objects [.celsius] }
  | .tag => { bare .tag with equality := objects [.tag, .base] }
  | .ordOnly => { bare .ordOnly with ordering := objects [.ordOnly] }
  | .mixed => { bare .mixed with equality := objects [.i32], ordering := objects [.i32, .celsius] }
  | .flag => { bare .flag with convertsTo := objects [.bool] }
  | .subFlag => { bare .subFlag with bases := objects [.flag] }
  | .feet =>
    { bare .feet with
      convertsTo := objects [.meters]
      equality := objects [.feet, .meters]
      ordering := objects [.meters, .feet] }
  | .meters => { bare .meters with equality := objects [.meters], ordering := objects [.meters] }
  | .less => { bare .less with calls := [⟨[value .i32, value .i32], value .bool⟩] }
  | .subLess => { bare .subLess with bases := objects [.less] }
  | .visitor => { bare .visitor with calls := [⟨[constLvalue .base], value .i32⟩, ⟨[], value .flag⟩] }
  | .factory => { bare .factory with calls := [⟨[], value .base⟩] }
  | .widget => bare .widget
  | .gadget => bare .gadget
  | .assembler =>
    { bare .assembler with calls := [⟨[constLvalue .widget, value .i32], value .gadget⟩] }
  | .overload =>
    { bare .overload with
      calls :=
        [⟨[lvalue .base], lvalue .base⟩, ⟨[rvalue .base], rvalue .base⟩,
          ⟨[constLvalue .base], constLvalue .base⟩, ⟨[value .grand], .nonesuch⟩,
          ⟨[value .parent], value .i32⟩, ⟨[value .i8], spelledOut .i32⟩, ⟨[value .f64], value .u8⟩,
          ⟨[value .i32, value .base], (value .bool).addConst⟩,
          ⟨[value .base, value .i32], ((value .widget).addCv .constVolatile).addLvalueReference⟩,
          ⟨[value .i32, value .i32, value .i32], value .less⟩,
          ⟨[value .i32, lvalue .i32, rvalue .i32, constLvalue .i32], (value .i32).addVolatile⟩] }
  | .cmp =>
    { bare .cmp with
      calls :=
        [⟨[value .base, value .base], constLvalue .bool⟩, ⟨[value .i32, value .base], value .flag⟩,
          ⟨[value .base, value .i32], value .i32⟩, ⟨[value .i32, value .i32], value .base⟩] }
  | .plain =>
    { bare .plain with
      bases := objects [.base]
      convertsTo := objects [.u64]
      convertsFrom := objects [.mode]
      commonTypes := [common .notDerived (value .base)]
      commonReferences := [reference .notDerived (.withSecond (value .plain))]
      ordering := objects [.plain]
      calls := [⟨[value .f64], value .bool⟩, ⟨[], value .u64⟩] }
  | .wide => ofKind .wide (.signedInteger .long)
  | .half =>
    { ofKind .half (.floating .float) with
      convertsTo := objects [.base]
      convertsFrom := objects [.derived]
      commonTypes := [common .i32 (value .half)] }
  | .odd =>
    { ofKind .odd (.arithmetic false false .uint) with
      bases := objects [.wide]
      equality := objects [.odd, .base] }
  | .twinA => twin .twinA "t" "same"
  | .twinB => twin .twinB "t" "same"
  | .twinC => twin .twinC "t" "other"
  | .twinD => twin .twinD "u" "same"
  | .longA => twin .longA "L" (longText "M" "." "f")
  | .longB => twin .longB "L" (longText "M" "x" "f")
  | .longC => twin .longC "L" (longText "x" "." "f")
  | .longD => twin .longD "L" (longText "M" "." "x")

/-- The built-in object of each rank. -/
def promoted : Rank → Item
  | .int => .i32
  | .uint => .u32
  | .long => .i64
  | .ulong => .u64
  | .float => .f32
  | .double => .f64

/-- All registrations, written out once. -/
def registrations : Array (Registration Item) := (Item.all.map registration).toArray

theorem getD_registrations (i : Item) : registrations[i.ctorIdx]?.getD (registration i) = registration i := by
  simp [registrations, Item.getElem?_all]

theorem builtin_promoted (r : Rank) : (registration (promoted r)).Builtin (.ofRank r) := by
  cases r <;> constructor <;> rfl

theorem builtin_bool : (registration .bool).Builtin (.unsignedInteger .int) := by
  constructor <;> rfl

/-- The catalogue as a table. -/
def table : Table Item where
  registration i := registrations[i.ctorIdx]?.getD (registration i)
  members := Item.all
  mem_members := Item.mem_all
  promoted := fun r => .registered (promoted r)
  promoted_builtin r := ⟨promoted r, rfl, by rw [getD_registrations]; exact builtin_promoted r⟩
  truth := .registered .bool
  truth_builtin := ⟨.bool, rfl, by rw [getD_registrations]; exact builtin_bool⟩

theorem registration_table (i : Item) : table.registration i = registration i := getD_registrations i

end Catalogue

end Concord
