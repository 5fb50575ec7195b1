import Concord.Source.Error

/-!
# Readers in sequence

A `Parser` reads a phrase from the front of a list of tokens or says why it cannot. Tokens left over in a group are no
reason to stop: the first such group is noted, and reading a whole list is refused for it only if nothing else is wrong.
A reader does not see what is noted, and what it leaves to read is the end of what it was given.
-/

namespace Concord.Source

/-- What a reader answers: what it has read, what is left to read, and the first group in which tokens are left over. -/
structure Answer (α : Type) where
  value : α
  rest : Spelling
  stray : Option Delimiter := none
  deriving Repr

/-- A reader of phrases of tokens. -/
@[ext] structure Parser (α : Type) where
  run : Spelling → Except SyntaxError (Answer α)
  /-- A reader goes forward only. -/
  rest_suffix : ∀ {ts : Spelling} {a : Answer α}, run ts = .ok a → a.rest <:+ ts

namespace Answer

variable {α β : Type}

/-- The answer to what comes after a group that is noted first. -/
def noted (stray : Option Delimiter) (a : Answer α) : Answer α := { a with stray := stray <|> a.stray }

@[simp] theorem noted_none (a : Answer α) : a.noted none = a := rfl

@[simp] theorem map_noted_none (a : Except SyntaxError (Answer α)) : a.map (noted none) = a := by
  cases a <;> rfl

@[simp] theorem value_noted (stray : Option Delimiter) (a : Answer α) : (a.noted stray).value = a.value := rfl

@[simp] theorem rest_noted (stray : Option Delimiter) (a : Answer α) : (a.noted stray).rest = a.rest := rfl

@[simp] theorem stray_noted (stray : Option Delimiter) (a : Answer α) :
    (a.noted stray).stray = (stray <|> a.stray) := rfl

@[simp] theorem noted_mk (stray stray' : Option Delimiter) (value : α) (rest : Spelling) :
    noted stray ⟨value, rest, stray'⟩ = ⟨value, rest, stray <|> stray'⟩ := rfl

theorem noted_noted (first second : Option Delimiter) (a : Answer α) :
    (a.noted second).noted first = a.noted (first <|> second) := by
  cases first <;> rfl

end Answer

namespace Parser

variable {α β γ : Type}

/-- Reads nothing and answers a value. -/
def answer (a : α) : Parser α where
  run ts := .ok { value := a, rest := ts }
  rest_suffix h := by cases h; exact List.suffix_rfl

/-- Refuses whatever is next. -/
def refuse (e : SyntaxError) : Parser α where
  run _ := .error e
  rest_suffix := nofun

/-- Reads two phrases, the second one depending on the first. -/
def andThen (p : Parser α) (f : α → Parser β) : Parser β where
  run ts :=
    match p.run ts with
    | .ok a => ((f a.value).run a.rest).map (Answer.noted a.stray)
    | .error e => .error e
  rest_suffix {ts b} h := by
    split at h
    case h_1 a first =>
      cases second : (f a.value).run a.rest with
      | ok b' =>
        simp only [second, Except.map, Except.ok.injEq] at h
        subst h
        exact ((f a.value).rest_suffix second).trans (p.rest_suffix first)
      | error e => simp [second, Except.map] at h
    case h_2 => cases h

/-- Reads by another reader where the first one refuses. -/
def otherwise (p : Parser α) (other : SyntaxError → Parser α) : Parser α where
  run ts :=
    match p.run ts with
    | .ok a => .ok a
    | .error e => (other e).run ts
  rest_suffix h := by
    split at h
    case h_1 a first =>
      cases h
      exact p.rest_suffix first
    case h_2 e _ => exact (other e).rest_suffix h

instance : Monad Parser where
  pure := answer
  bind := andThen

instance : MonadExceptOf SyntaxError Parser where
  throw := refuse
  tryCatch := otherwise

instance : MonadLift (Except SyntaxError) Parser where
  monadLift
    | .ok a => answer a
    | .error e => refuse e

variable {ts : Spelling}

@[simp] theorem run_pure (a : α) : (pure a : Parser α).run ts = .ok { value := a, rest := ts } := rfl

@[simp] theorem run_throw (e : SyntaxError) : (throw e : Parser α).run ts = .error e := rfl

@[simp] theorem run_liftM_ok (a : α) :
    (liftM (.ok a : Except SyntaxError α) : Parser α).run ts = .ok { value := a, rest := ts } := rfl

@[simp] theorem run_liftM_error (e : SyntaxError) :
    (liftM (.error e : Except SyntaxError α) : Parser α).run ts = .error e := rfl

theorem run_bind (p : Parser α) (f : α → Parser β) :
    (p >>= f).run ts = (p.run ts).bind fun a => ((f a.value).run a.rest).map (Answer.noted a.stray) := by
  change (andThen p f).run ts = _
  cases first : p.run ts <;> simp [andThen, first, Except.bind]

theorem run_bind_of_ok {p : Parser α} {f : α → Parser β} {a : Answer α} (h : p.run ts = .ok a) :
    (p >>= f).run ts = ((f a.value).run a.rest).map (Answer.noted a.stray) := by
  change (andThen p f).run ts = _
  simp [andThen, h]

theorem run_bind_of_error {p : Parser α} {f : α → Parser β} {e : SyntaxError} (h : p.run ts = .error e) :
    (p >>= f).run ts = .error e := by
  change (andThen p f).run ts = _
  simp [andThen, h]

/-- Two phrases are read with no token left over in a group exactly if both are. -/
theorem run_bind_eq_ok_iff {p : Parser α} {f : α → Parser β} {b : β} {rest : Spelling} :
    (p >>= f).run ts = .ok ⟨b, rest, none⟩ ↔
      ∃ a between, p.run ts = .ok ⟨a, between, none⟩ ∧ (f a).run between = .ok ⟨b, rest, none⟩ := by
  constructor
  · intro h
    cases first : p.run ts with
    | error e => simp [run_bind_of_error first] at h
    | ok a =>
      obtain ⟨a, between, stray⟩ := a
      rw [run_bind_of_ok first] at h
      cases second : (f a).run between with
      | error e => simp [second, Except.map] at h
      | ok c =>
        cases stray with
        | some d => simp [second, Except.map, Answer.noted] at h
        | none => exact ⟨a, between, rfl, by simpa [second, Except.map] using h⟩
  · rintro ⟨a, between, first, second⟩
    rw [run_bind_of_ok first, second]
    rfl

theorem run_map (f : α → β) (p : Parser α) :
    (f <$> p).run ts = (p.run ts).map fun a => ⟨f a.value, a.rest, a.stray⟩ := by
  change (andThen p (answer ∘ f)).run ts = _
  cases first : p.run ts <;> simp [andThen, answer, first, Except.map]

theorem andThen_answer (p : Parser α) : p.andThen answer = p := by
  ext ts : 2
  cases first : p.run ts with
  | error e => simp [andThen, first]
  | ok a => simp [andThen, answer, first, Except.map]

theorem answer_andThen (a : α) (f : α → Parser β) : (answer a).andThen f = f a := by
  ext ts : 2
  cases first : (f a).run ts <;> simp [andThen, answer, first, Except.map]

theorem andThen_assoc (p : Parser α) (f : α → Parser β) (g : β → Parser γ) :
    (p.andThen f).andThen g = p.andThen fun a => (f a).andThen g := by
  ext ts : 2
  cases first : p.run ts with
  | error e => simp [andThen, first]
  | ok a =>
    cases second : (f a.value).run a.rest with
    | error e => simp [andThen, first, second, Except.map]
    | ok b =>
      cases third : (g b.value).run b.rest <;>
        simp [andThen, first, second, third, Except.map, Answer.noted_noted]

instance : LawfulMonad Parser := LawfulMonad.mk' Parser andThen_answer answer_andThen andThen_assoc

end Parser

end Concord.Source
