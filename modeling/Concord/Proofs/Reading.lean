import Concord.Source.Grammar.Phrase
import Mathlib.Data.List.Forall2

/-!
# Readers that answer alike

A rule of the grammar is given a reader of phrases, and asks it only about tokens further on. So two readers that answer
alike to fewer tokens make rules that answer alike. `Alike n` relates readers that give one answer to fewer than `n` tokens;
it goes through all that phrases are made of, and after a phrase of a token at least it is asked of one token less.
-/

namespace Concord.Source.Parser

variable {α β : Type} {n : Nat}

/-- A phrase is a token at least. -/
class Consumes (p : Parser α) : Prop where
  length_lt : ∀ {ts : Spelling} {a : Answer α}, p.run ts = .ok a → a.rest.length < ts.length

/-- Two readers give one answer to fewer than `n` tokens, those in groups counted too. -/
class Alike (n : Nat) (p p' : Parser α) : Prop where
  run_eq : ∀ ts : Spelling, Token.weights ts < n → p.run ts = p'.run ts

/-! ## Phrases of a token at least -/

namespace Consumes

theorem exists_runs_of_bind {p : Parser α} {f : α → Parser β} {ts : Spelling} {b : Answer β}
    (read : (p >>= f).run ts = .ok b) :
    ∃ a c, p.run ts = .ok a ∧ (f a.value).run a.rest = .ok c ∧ b.rest = c.rest := by
  cases first : p.run ts with
  | error e => simp [run_bind_of_error first] at read
  | ok a =>
    rw [run_bind_of_ok first] at read
    cases second : (f a.value).run a.rest with
    | error e => simp [second, Except.map] at read
    | ok c =>
      simp only [second, Except.map, Except.ok.injEq] at read
      subst read
      exact ⟨a, c, rfl, second, rfl⟩

instance bind_left (p : Parser α) (f : α → Parser β) [Consumes p] : Consumes (p >>= f) where
  length_lt read := by
    obtain ⟨a, c, first, second, rest⟩ := exists_runs_of_bind read
    rw [rest]
    exact Nat.lt_of_le_of_lt ((f a.value).rest_suffix second).length_le (length_lt first)

instance bind_right (p : Parser α) (f : α → Parser β) [∀ a, Consumes (f a)] : Consumes (p >>= f) where
  length_lt read := by
    obtain ⟨a, c, first, second, rest⟩ := exists_runs_of_bind read
    rw [rest]
    exact Nat.lt_of_lt_of_le (length_lt second) (p.rest_suffix first).length_le

instance append_left (p q : Speller) [Consumes p] : Consumes (p ++ q) :=
  inferInstanceAs (Consumes (p >>= fun s => q >>= fun t => pure (s ++ t)))

instance append_right (p q : Speller) [Consumes q] : Consumes (p ++ q) :=
  inferInstanceAs (Consumes (p >>= fun s => q >>= fun t => pure (s ++ t)))

instance of_throw (e : SyntaxError) : Consumes (throw e : Parser α) where
  length_lt read := by cases read

instance reject (sought : List Sought) : Consumes (reject sought : Parser α) :=
  inferInstanceAs (Consumes (atEnd >>= fun _ => throw _))

instance ite (c : Prop) [Decidable c] (p q : Parser α) [Consumes p] [Consumes q] : Consumes (if c then p else q) := by
  split <;> infer_instance

instance word (s : String) : Consumes (word s) where
  length_lt {ts a} read := by
    rw [Parser.word, run_next_bind] at read
    split at read
    · match ts with
      | _ :: _ =>
        cases read
        exact Nat.lt_succ_self _
    · cases read

theorem of_sign {s : String} (nonempty : 0 < s.length) : Consumes (sign s) where
  length_lt {ts a} read := by
    rw [run_sign] at read
    split at read
    · cases read
      have enough := Spelling.length_le_of_startsSign ‹_›
      rw [List.length_drop]
      omega
    · cases read

instance : Consumes (sign "#") := of_sign (by decide)

instance : Consumes (sign "<") := of_sign (by decide)

instance : Consumes (sign "::") := of_sign (by decide)

instance : Consumes (sign "->") := of_sign (by decide)

instance : Consumes (sign "=") := of_sign (by decide)

instance : Consumes (sign "+") := of_sign (by decide)

instance : Consumes (sign "*") := of_sign (by decide)

instance : Consumes (sign "&") := of_sign (by decide)

instance : Consumes (sign ":") := of_sign (by decide)

instance : Consumes (sign ",") := of_sign (by decide)

instance : Consumes (sign ";") := of_sign (by decide)

instance : Consumes (sign "|") := of_sign (by decide)

instance : Consumes (sign "..") := of_sign (by decide)

instance : Consumes (sign "@") := of_sign (by decide)

instance : Consumes (sign "-") := of_sign (by decide)

instance : Consumes (sign "!") := of_sign (by decide)

instance : Consumes (sign ".") := of_sign (by decide)

instance : Consumes (sign "=>") := of_sign (by decide)

instance : Consumes (sign "..=") := of_sign (by decide)

instance identifier : Consumes identifier where
  length_lt {ts a} read := by
    rw [Parser.identifier, run_peek_bind] at read
    split at read
    · split at read
      · cases read
        exact Nat.lt_succ_self _
      · cases read
    · cases read

instance anyWord : Consumes anyWord where
  length_lt {ts a} read := by
    rw [Parser.anyWord, run_peek_bind] at read
    split at read
    · cases read
      exact Nat.lt_succ_self _
    · cases read

instance openGroup (d : Delimiter) (p : Parser α) : Consumes (openGroup d p) where
  length_lt {ts a} opened := by
    simp only [Parser.openGroup] at opened
    split at opened
    case h_1 e inner rest =>
      split at opened
      · cases read : p.run inner with
        | error e => simp [read, Except.map] at opened
        | ok b =>
          simp only [read, Except.map, Except.ok.injEq] at opened
          subst opened
          exact Nat.lt_succ_self _
      · cases opened
    case h_2 => cases opened

end Consumes

/-! ## Readers alike -/

namespace Alike

instance (priority := high) refl (p : Parser α) : Alike n p p where
  run_eq _ _ := rfl

theorem zero (p p' : Parser α) : Alike 0 p p' := ⟨fun _ fewer => absurd fewer (Nat.not_lt_zero _)⟩

theorem symm {p p' : Parser α} (alike : Alike n p p') : Alike n p' p := ⟨fun ts fewer => (alike.run_eq ts fewer).symm⟩

theorem trans {p p' q : Parser α} (first : Alike n p p') (second : Alike n p' q) : Alike n p q :=
  ⟨fun ts fewer => (first.run_eq ts fewer).trans (second.run_eq ts fewer)⟩

theorem eq_of_forall {p p' : Parser α} (alike : ∀ n, Alike n p p') : p = p' :=
  Parser.ext (funext fun ts => (alike (Token.weights ts + 1)).run_eq ts (Nat.lt_succ_self _))

instance (priority := low) pred (p p' : Parser α) [alike : Alike n p p'] : Alike (n - 1) p p' where
  run_eq ts fewer := alike.run_eq ts (Nat.lt_of_lt_of_le fewer (Nat.pred_le n))

theorem run_bind_congr {p p' : Parser α} {f f' : α → Parser β} {ts : Spelling} (first : p.run ts = p'.run ts)
    (second : ∀ a, p.run ts = .ok a → (f a.value).run a.rest = (f' a.value).run a.rest) :
    (p >>= f).run ts = (p' >>= f').run ts := by
  rw [run_bind, run_bind, ← first]
  cases read : p.run ts with
  | error e => rfl
  | ok a => simp [Except.bind, second a read]

instance (priority := mid) bind (p p' : Parser α) (f f' : α → Parser β) [first : Alike n p p']
    [second : ∀ a, Alike n (f a) (f' a)] : Alike n (p >>= f) (p' >>= f') where
  run_eq ts fewer := by
    refine run_bind_congr (first.run_eq ts fewer) fun a read => (second a.value).run_eq a.rest ?_
    exact Nat.lt_of_le_of_lt (Token.weights_le_of_suffix (p.rest_suffix read)) fewer

/-- After a token there are fewer tokens. -/
instance bind_after (p p' : Parser α) (f f' : α → Parser β) [Consumes p] [first : Alike n p p']
    [second : ∀ a, Alike (n - 1) (f a) (f' a)] : Alike n (p >>= f) (p' >>= f') where
  run_eq ts fewer := by
    refine run_bind_congr (first.run_eq ts fewer) fun a read => (second a.value).run_eq a.rest ?_
    have := Token.weights_lt_of_suffix (p.rest_suffix read) (Consumes.length_lt read)
    omega

theorem bind_of_forall {p p' : Parser α} {f f' : α → Parser β} (first : Alike n p p')
    (second : ∀ a, Alike n (f a) (f' a)) : Alike n (p >>= f) (p' >>= f') :=
  inferInstance

theorem bind_after_of_forall {p p' : Parser α} {f f' : α → Parser β} [Consumes p] (first : Alike n p p')
    (second : ∀ a, Alike (n - 1) (f a) (f' a)) : Alike n (p >>= f) (p' >>= f') :=
  inferInstance

instance (priority := mid) append (p p' q q' : Speller) [Alike n p p'] [Alike n q q'] : Alike n (p ++ q) (p' ++ q') :=
  inferInstanceAs (Alike n (p >>= fun s => q >>= fun t => pure (s ++ t)) (p' >>= fun s => q' >>= fun t => pure (s ++ t)))

instance append_after (p p' q q' : Speller) [Consumes p] [Alike n p p'] [Alike (n - 1) q q'] :
    Alike n (p ++ q) (p' ++ q') :=
  inferInstanceAs (Alike n (p >>= fun s => q >>= fun t => pure (s ++ t)) (p' >>= fun s => q' >>= fun t => pure (s ++ t)))

instance ite (c : Prop) [Decidable c] (p p' q q' : Parser α) [Alike n p p'] [Alike n q q'] :
    Alike n (if c then p else q) (if c then p' else q') := by
  split <;> infer_instance

instance tryCatch (p p' : Parser α) (f f' : SyntaxError → Parser α) [first : Alike n p p']
    [other : ∀ e, Alike n (f e) (f' e)] : Alike n (tryCatch p f) (tryCatch p' f') where
  run_eq ts fewer := by
    change (otherwise p f).run ts = (otherwise p' f').run ts
    simp only [otherwise, first.run_eq ts fewer]
    cases p'.run ts with
    | ok a => rfl
    | error e => exact (other e).run_eq ts fewer

/-- What is in a group is fewer tokens. -/
instance openGroup (d : Delimiter) (p p' : Parser α) [inside : Alike (n - 1) p p'] :
    Alike n (openGroup d p) (openGroup d p') where
  run_eq ts fewer := by
    simp only [Parser.openGroup]
    split
    case h_1 e inner rest =>
      simp only [Token.weights, Token.weight] at fewer
      rw [inside.run_eq inner (by omega)]
    case h_2 => rfl

instance group (d : Delimiter) (p p' : Parser α) [Alike (n - 1) p p'] : Alike n (group d p) (group d p') := by
  dsimp only [Parser.group]
  infer_instance

theorem groupThen_of_forall {d : Delimiter} {p p' : Parser α} {f f' : α → Parser β} (inside : Alike (n - 1) p p')
    (after : ∀ a, Alike (n - 1) (f a) (f' a)) : Alike n (groupThen d p f) (groupThen d p' f') := by
  dsimp only [Parser.groupThen]
  infer_instance

instance groupThen (d : Delimiter) (p p' : Parser α) (f f' : α → Parser β) [Alike (n - 1) p p']
    [∀ a, Alike (n - 1) (f a) (f' a)] : Alike n (groupThen d p f) (groupThen d p' f') :=
  groupThen_of_forall inferInstance inferInstance

instance grouped (d : Delimiter) (p p' : Speller) [Alike (n - 1) p p'] : Alike n (grouped d p) (grouped d p') := by
  dsimp only [Parser.grouped]
  infer_instance

instance optional (fits : Spelling → Bool) (p p' : Speller) [Alike n p p'] :
    Alike n (optional fits p) (optional fits p') := by
  dsimp only [Parser.optional]
  infer_instance

instance asWritten (p p' : Parser α) [Alike n p p'] : Alike n (asWritten p) (asWritten p') := by
  dsimp only [Parser.asWritten]
  infer_instance

instance attempt (p p' : Parser α) [Alike n p p'] : Alike n (attempt p) (attempt p') := by
  dsimp only [Parser.attempt]
  infer_instance

instance separatedWithin (between : String) (noItem noSign : Spelling → Bool) (item item' : Parser α) [Alike n item item']
    (steps : Nat) :
    Alike n (separatedWithin between noItem noSign item steps) (separatedWithin between noItem noSign item' steps) := by
  induction steps with
  | zero => exact refl _
  | succ steps ih =>
    dsimp only [Parser.separatedWithin]
    infer_instance

instance separated (between : String) (noItem noSign : Spelling → Bool) (item item' : Parser α) [Alike n item item'] :
    Alike n (separated between noItem noSign item) (separated between noItem noSign item') := by
  dsimp only [Parser.separated]
  infer_instance

instance commaSpelled (item item' : Speller) [Alike n item item'] : Alike n (commaSpelled item) (commaSpelled item') := by
  dsimp only [Parser.commaSpelled]
  infer_instance

instance repeatWithin (fits : Spelling → Bool) (p p' : Parser α) [Alike n p p'] (steps : Nat) :
    Alike n (repeatWithin fits p steps) (repeatWithin fits p' steps) := by
  induction steps with
  | zero => exact refl _
  | succ steps ih =>
    dsimp only [Parser.repeatWithin]
    infer_instance

instance repeated (fits : Spelling → Bool) (p p' : Parser α) [Alike n p p'] :
    Alike n (repeated fits p) (repeated fits p') := by
  dsimp only [Parser.repeated]
  infer_instance

instance ofSpeller (p p' : Speller) [Alike n p p'] : Alike n (Reading.ofSpeller p) (Reading.ofSpeller p') := by
  dsimp only [Reading.ofSpeller]
  infer_instance

end Alike

/-! ## Choices -/

/-- Options for the same tokens, with readers alike. -/
class AlikeOptions (n : Nat) (options options' : List (Sought × (Spelling → Bool) × Parser α)) : Prop where
  forall₂ : List.Forall₂ (fun o o' => o.1 = o'.1 ∧ o.2.1 = o'.2.1 ∧ Alike n o.2.2 o'.2.2) options options'

instance AlikeOptions.nil : AlikeOptions n ([] : List (Sought × (Spelling → Bool) × Parser α)) [] := ⟨.nil⟩

instance AlikeOptions.cons (sought : Sought) (fits : Spelling → Bool) (p p' : Parser α)
    (options options' : List (Sought × (Spelling → Bool) × Parser α)) [first : Alike n p p']
    [others : AlikeOptions n options options'] :
    AlikeOptions n ((sought, fits, p) :: options) ((sought, fits, p') :: options') :=
  ⟨.cons ⟨rfl, rfl, first⟩ others.forall₂⟩

theorem AlikeOptions.map_eq {options options' : List (Sought × (Spelling → Bool) × Parser α)}
    (alike : AlikeOptions n options options') : options.map (·.1) = options'.map (·.1) := by
  induction alike.forall₂ with
  | nil => rfl
  | @cons o o' options options' first others ih => rw [List.map_cons, List.map_cons, first.1, ih ⟨others⟩]

instance Alike.choose (options options' : List (Sought × (Spelling → Bool) × Parser α))
    [alike : AlikeOptions n options options'] : Alike n (choose options) (choose options') where
  run_eq ts fewer := by
    have found : (∃ o o', options.find? (fun (_, fits, _) => fits ts) = some o ∧
        options'.find? (fun (_, fits, _) => fits ts) = some o' ∧ Alike n o.2.2 o'.2.2) ∨
        (options.find? (fun (_, fits, _) => fits ts) = none ∧ options'.find? (fun (_, fits, _) => fits ts) = none) := by
      induction alike.forall₂ with
      | nil => exact .inr ⟨rfl, rfl⟩
      | @cons o o' _ _ first others ih =>
        obtain ⟨sought, fits, p⟩ := o
        obtain ⟨sought', fits', p'⟩ := o'
        obtain ⟨rfl, rfl, readers⟩ := first
        cases next : fits ts with
        | true => exact .inl ⟨_, _, by simp [next], by simp [next], readers⟩
        | false => simpa [next] using ih
    rw [Parser.choose, Parser.choose, run_peek_bind, run_peek_bind, alike.map_eq]
    obtain ⟨o, o', first, first', readers⟩ | ⟨none, none'⟩ := found
    · rw [first, first']
      exact readers.run_eq ts fewer
    · rw [none, none']

/-- No reader, or two alike. -/
class AlikeOption (n : Nat) (o o' : Option (Parser α)) : Prop where
  rel : Option.Rel (Alike n) o o'

instance AlikeOption.none : AlikeOption n (none : Option (Parser α)) .none := ⟨.none⟩

instance AlikeOption.some (p p' : Parser α) [alike : Alike n p p'] : AlikeOption n (some p) (some p') := ⟨.some alike⟩

instance AlikeOption.ite (c : Prop) [Decidable c] (o o' u u' : Option (Parser α)) [AlikeOption n o o']
    [AlikeOption n u u'] : AlikeOption n (if c then o else u) (if c then o' else u') := by
  split <;> infer_instance

end Concord.Source.Parser
