import Concord.Source.Lexer
import Concord.Source.Parser.Monad
import Concord.Source.Start

/-!
# Readers of tokens

What is next, single tokens, and phrases made of phrases. A `Speller` answers the tokens of its phrase as they are written
again, each sign by itself.
-/

namespace Concord.Source

/-- A reader that answers the tokens of its phrase. -/
abbrev Speller := Parser Spelling

instance : Append Speller := ⟨fun p q => do return (← p) ++ (← q)⟩

namespace Parser

variable {α β : Type}

/-! ## What is next -/

/-- The tokens that are not read yet. -/
def peek : Parser Spelling where
  run ts := .ok { value := ts, rest := ts }
  rest_suffix h := by cases h; exact List.suffix_rfl

/-- Whether what is not read yet satisfies a condition. -/
def next (p : Spelling → Bool) : Parser Bool := do return p (← peek)

/-- Nothing is left to read. -/
def atEnd : Parser Bool := next List.isEmpty

/-- Goes on after some tokens. -/
def skip (count : Nat) : Parser Unit where
  run ts := .ok { value := (), rest := ts.drop count }
  rest_suffix h := by cases h; exact List.drop_suffix _ _

/-- Goes on at the end. -/
def skipAll : Parser Unit := do skip (← peek).length

/-- Refuses since none of what is looked for is next. -/
def reject (sought : List Sought) : Parser α := do throw (.expected (← atEnd) sought)

variable {ts : Spelling}

@[simp] theorem run_peek_bind (f : Spelling → Parser α) : (peek >>= f).run ts = (f ts).run ts := by
  rw [run_bind_of_ok (show peek.run ts = .ok ⟨ts, ts, none⟩ from rfl), Answer.map_noted_none]

@[simp] theorem run_next_bind (fits : Spelling → Bool) (f : Bool → Parser α) :
    (next fits >>= f).run ts = (f (fits ts)).run ts := by
  rw [run_bind_of_ok (show (next fits).run ts = .ok ⟨fits ts, ts, none⟩ from rfl), Answer.map_noted_none]

/-- Looks in turn for what is sought, and goes on with the reader of the first that is next. -/
def choose (options : List (Sought × (Spelling → Bool) × Parser α)) : Parser α := do
  let ts ← peek
  match options.find? fun (_, fits, _) => fits ts with
  | some (_, _, p) => p
  | none => reject (options.map (·.1))

/-! ## Single tokens -/

/-- Reads a given word. -/
def word (s : String) : Speller := do
  if ← next (Spelling.startsWord s) then
    skip 1
    return [.word s]
  else reject [.token s]

/-- Reads a given sign. That it is missing is all that is said of it, also where nothing is left. -/
def sign (s : String) : Speller := do
  if ← next (Spelling.startsSign s) then
    skip s.length
    return Spelling.sign s
  else throw (.expected false [.token s])

theorem run_sign (s : String) : (sign s).run ts =
    if ts.startsSign s then .ok ⟨Spelling.sign s, ts.drop s.length, none⟩ else .error (.expected false [.token s]) := by
  rw [sign, run_next_bind]
  split <;> rfl

/-- Reads a word that is not reserved. -/
def identifier : Parser String := do
  match ← peek with
  | .word s :: _ =>
    if Identifier.isIdentifier s then
      skip 1
      return s
    else throw (.reserved s)
  | _ => reject [.identifier]

/-- Reads a word, reserved or not. -/
def anyWord : Parser String := do
  match ← peek with
  | .word s :: _ =>
    skip 1
    return s
  | _ => reject [.anyWord]

/-- Reads a lifetime. -/
def lifetime : Speller := do
  let ts ← peek
  if Spelling.startsLifetime ts then
    skip 2
    return ts.take 2
  else reject [.lifetime]

/-- Reads a literal. The minus sign of a number is a token by itself. -/
def literal : Speller := do
  match ← peek with
  | .literal s :: _ =>
    skip 1
    return [.literal s]
  | .word s :: _ =>
    if s = "true" ∨ s = "false" then
      skip 1
      return [.word s]
    else reject [.literal]
  | .sign c _ :: .literal s :: _ =>
    if c = '-' ∧ Literal.isNumber s then
      skip 2
      return [.sign '-' false, .literal s]
    else reject [.literal]
  | _ => reject [.literal]

/-- Reads a group of any delimiter and answers it as it stands. -/
def anyGroup : Speller := do
  match ← peek with
  | .group d content :: _ =>
    skip 1
    return [.group d content]
  | _ => reject [.anyGroup]

/-! ## Phrases of phrases -/

/-- Notes a group in which tokens are left over, if none is noted yet. -/
def note (stray : Option Delimiter) : Parser Unit where
  run ts := .ok { value := (), rest := ts, stray }
  rest_suffix h := by cases h; exact List.suffix_rfl

/-- Reads a group by a reader of its content, and answers also the delimiter if tokens are left over in it, which is not
noted yet. -/
def openGroup (d : Delimiter) (content : Parser α) : Parser (α × Option Delimiter) where
  run
    | .group e inner :: rest =>
      if d = e then
        (content.run inner).map fun a =>
          { value := (a.value, if a.rest.isEmpty then none else some d), rest, stray := a.stray }
      else .error (.expected false [.group d])
    | ts => .error (.expected ts.isEmpty [.group d])
  rest_suffix {ts b} h := by
    split at h
    case h_1 e inner rest =>
      split at h
      · cases read : content.run inner with
        | ok a =>
          simp only [read, Except.map, Except.ok.injEq] at h
          subst h
          exact List.suffix_cons _ _
        | error e => simp [read, Except.map] at h
      · cases h
    case h_2 => cases h

/-- Reads a group by a reader of its content, and notes it if tokens are left over in it. -/
def group (d : Delimiter) (content : Parser α) : Parser α := do
  let (a, left) ← openGroup d content
  note left
  return a

/-- Reads a group and then what comes after it, and notes tokens left over in the group last. -/
def groupThen (d : Delimiter) (content : Parser α) (after : α → Parser β) : Parser β := do
  let (a, left) ← openGroup d content
  let b ← after a
  note left
  return b

theorem run_note_bind_eq_ok_iff {a b : α} {rest : Spelling} {left : Option Delimiter} :
    (do note left; return b : Parser α).run ts = .ok ⟨a, rest, none⟩ ↔ left = none ∧ b = a ∧ ts = rest := by
  have run : (do note left; return b : Parser α).run ts = .ok ⟨b, ts, left <|> none⟩ := rfl
  rw [run]
  cases left <;> simp

/-- What comes after a group is read on its own. -/
theorem exists_run_of_groupThen {d : Delimiter} {p : Parser α} {after : α → Parser β} {b : β} {rest : Spelling}
    (read : (groupThen d p after).run ts = .ok ⟨b, rest, none⟩) :
    ∃ a between, (after a).run between = .ok ⟨b, rest, none⟩ := by
  obtain ⟨⟨a, left⟩, between, -, closed⟩ := run_bind_eq_ok_iff.1 read
  obtain ⟨b', _, answered, closed⟩ := run_bind_eq_ok_iff.1 closed
  obtain ⟨-, rfl, rfl⟩ := run_note_bind_eq_ok_iff.1 closed
  exact ⟨a, between, answered⟩

/-- Reads a group and spells it with its delimiters. -/
def grouped (d : Delimiter) (content : Speller) : Speller := do return [.group d (← group d content)]

/-- Reads a phrase if it is next. -/
def optional (fits : Spelling → Bool) (p : Speller) : Speller := do
  if ← next fits then p else return []

/-- Reads a word if it is next. -/
def optionalWord (s : String) : Speller := optional (Spelling.startsWord s) (word s)

/-- Reads a sign if it is next. -/
def optionalSign (s : String) : Speller := optional (Spelling.startsSign s) (sign s)

/-- The tokens since an earlier place, as they stand. -/
def writtenSince (before : Spelling) : Speller := do return before.take (before.length - (← peek).length)

/-- Reads a phrase and answers its tokens as they stand. -/
def asWritten (p : Parser α) : Speller := do
  let before ← peek
  let _ ← p
  writtenSince before

/-- Reads a phrase if one can be read here; otherwise nothing is read. -/
def attempt (p : Parser α) : Parser (Option α) := do
  try return some (← p)
  catch _ => return none

/-- Reads items and signs between them in at most `steps` rounds: up to where no item is wanted before one, or no sign
after one. Each item comes with the sign after it. -/
def separatedWithin (between : String) (noItem noSign : Spelling → Bool) (item : Parser α) :
    Nat → Parser (List (α × Spelling))
  | 0 => throw .nestedTooDeeply
  | steps + 1 => do
    if ← next noItem then return []
    let a ← item
    if ← next noSign then return [(a, [])]
    let s ← sign between
    return (a, s) :: (← separatedWithin between noItem noSign item steps)

/-- Reads items and signs between them. Each round reads a sign at least, so the rounds are no more than the tokens. -/
def separated (between : String) (noItem noSign : Spelling → Bool) (item : Parser α) :
    Parser (List (α × Spelling)) := do
  separatedWithin between noItem noSign item ((← peek).length + 1)

/-- The tokens of items and of the signs between them. -/
def spelled (items : List (Spelling × Spelling)) : Spelling := items.flatMap fun (item, between) => item ++ between

/-- Reads items with commas between them, and possibly after the last, up to the end of the group. -/
def commaSeparated (item : Parser α) : Parser (List α) := do
  return (← separated "," List.isEmpty List.isEmpty item).map (·.1)

/-- Reads items with commas between them up to the end of the group, and spells them. -/
def commaSpelled (item : Speller) : Speller := do
  return spelled (← separated "," List.isEmpty List.isEmpty item)

/-- Reads phrases as long as they are next, in at most `steps` rounds. -/
def repeatWithin (fits : Spelling → Bool) (p : Parser α) : Nat → Parser (List α)
  | 0 => return []
  | steps + 1 => do
    if ← next fits then
      let a ← p
      return a :: (← repeatWithin fits p steps)
    else return []

/-- Reads phrases as long as they are next. Each is at least one token. -/
def repeated (fits : Spelling → Bool) (p : Parser α) : Parser (List α) := do
  repeatWithin fits p ((← peek).length + 1)

/-! ## Whole lists -/

/-- Reads a whole list of tokens. A group with tokens left over is refused before tokens left over after all. -/
def runAll (p : Parser α) (ts : Spelling) : Except SyntaxError α := do
  let a ← p.run ts
  match a.stray with
  | some d => throw (.leftOver (some d))
  | none => if a.rest.isEmpty then return a.value else throw (.leftOver none)

/-- Reads a whole text. -/
def ofText (p : Parser α) (text : String) : Except SyntaxError α :=
  match Spelling.ofText? text with
  | some ts => runAll p ts
  | none => throw .notTokens

end Parser

end Concord.Source
