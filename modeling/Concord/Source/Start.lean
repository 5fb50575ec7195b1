import Concord.Source.Literal
import Concord.Source.Token

/-!
# What tokens start with

A reader chooses its rule by the first tokens of a list: a word, a sign, a lifetime, a group or a literal. Looking further
skips whole trees, a lifetime counting as one.
-/

namespace Concord.Source

namespace Spelling

/-- A list of tokens starts with a word, reserved or not. -/
def startsAnyWord : Spelling → Bool
  | .word _ :: _ => true
  | _ => false

/-- A list of tokens starts with a given word. -/
def startsWord (word : String) : Spelling → Bool
  | .word s :: _ => s == word
  | _ => false

/-- A list of tokens starts with an identifier. -/
def startsIdentifier : Spelling → Bool
  | .word s :: _ => Identifier.isIdentifier s
  | _ => false

/-- What follows a sign of several characters, which are glued to each other. -/
def afterSign? : List Char → Spelling → Option Spelling
  | [], ts => some ts
  | [c], .sign d _ :: ts => if c = d ∧ c ≠ '\x27' then some ts else none
  | c :: cs, .sign d true :: ts => if c = d ∧ c ≠ '\x27' then afterSign? cs ts else none
  | _, _ => none

/-- A list of tokens starts with a sign. -/
def startsSign (sign : String) (ts : Spelling) : Bool := (afterSign? sign.toList ts).isSome

theorem length_le_of_afterSign? {cs : List Char} {ts rest : Spelling} (h : afterSign? cs ts = some rest) :
    cs.length ≤ ts.length := by
  fun_induction afterSign? cs ts with
  | case1 => simp
  | case2 => simp
  | case3 => cases h
  | case4 _ _ _ _ _ _ ih => simpa using ih h
  | case5 => cases h
  | case6 => cases h

theorem length_le_of_startsSign {sign : String} {ts : Spelling} (h : ts.startsSign sign = true) :
    sign.length ≤ ts.length := by
  obtain ⟨rest, after⟩ := Option.isSome_iff_exists.1 h
  rw [← String.length_toList]
  exact length_le_of_afterSign? after

theorem startsSign_comma_iff {ts : Spelling} :
    ts.startsSign "," = true ↔ ∃ glued rest, ts = .sign ',' glued :: rest := by
  constructor
  · intro h
    match ts with
    | .sign c glued :: rest =>
      obtain rfl : ',' = c := by simpa [startsSign, afterSign?] using h
      exact ⟨glued, rest, rfl⟩
  · rintro ⟨glued, rest, rfl⟩
    rfl

/-- A list of tokens starts with a lifetime. -/
def startsLifetime : Spelling → Bool
  | .sign c true :: .word _ :: _ => c == '\x27'
  | _ => false

/-- A list of tokens starts with a group. -/
def startsGroup (d : Delimiter) : Spelling → Bool
  | .group e _ :: _ => d == e
  | _ => false

/-- A list of tokens starts with a literal, a truth value, or a number with a minus sign. -/
def startsLiteral : Spelling → Bool
  | .literal _ :: _ => true
  | .word s :: _ => s == "true" || s == "false"
  | .sign c _ :: .literal s :: _ => c == '-' && Literal.isNumber s
  | _ => false

/-- A list of tokens without the first tree. A lifetime counts as one. -/
def dropTree (ts : Spelling) : Spelling := if startsLifetime ts then ts.drop 2 else ts.drop 1

/-- A list of tokens starts with a point that starts no range. -/
def startsPoint (ts : Spelling) : Bool := ts.startsSign "." && !ts.startsSign ".."

/-- A list of tokens starts with a colon that does not join names. -/
def startsColon (ts : Spelling) : Bool := ts.startsSign ":" && !ts.startsSign "::"

/-- A list of tokens starts with an exclamation mark that does not compare. -/
def startsBang (ts : Spelling) : Bool := ts.startsSign "!" && !ts.startsSign "!="

/-- A list of tokens starts with a word that can be a path although it is reserved. -/
def startsPathWord (ts : Spelling) : Bool := ["super", "self", "Self", "crate"].any ts.startsWord

/-- A list of tokens starts with generic parameters in angle brackets, and not with the type that qualifies a path. -/
def startsGenerics (ts : Spelling) : Bool :=
  let second := ts.dropTree
  let third := second.dropTree
  ts.startsSign "<" &&
    (second.startsSign ">" || second.startsSign "#" || second.startsWord "const" ||
      ((second.startsLifetime || second.startsIdentifier) &&
        (third.startsSign ">" || third.startsSign "," || third.startsColon || third.startsSign "=")))

end Spelling

end Concord.Source
