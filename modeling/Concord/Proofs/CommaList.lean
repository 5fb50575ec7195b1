import Concord.Source.Parser
import Mathlib.Data.List.Forall2

/-!
# Lists with commas

A reader of lists is given more rounds than it needs, so a list is read as its first item and, after a comma, the list of
the others. A list is read with nothing left over exactly if it is written item by item. Where items are checked as they are
read, the first one that fails its check decides.
-/

namespace Concord.Source.Parser

variable {α : Type} {ts : Spelling}

section

variable {between : String} {noItem noSign : Spelling → Bool} {item : Parser α}

variable (between noItem noSign item) in
/-- What one round reads, if `others` is what is read after the first sign. -/
def round (others : Spelling → Except SyntaxError (Answer (List (α × Spelling)))) (ts : Spelling) :
    Except SyntaxError (Answer (List (α × Spelling))) :=
  if noItem ts then .ok ⟨[], ts, none⟩
  else (item.run ts).bind fun a =>
    if noSign a.rest then .ok ⟨[(a.value, [])], a.rest, a.stray⟩
    else if a.rest.startsSign between then
      (others (a.rest.drop between.length)).map fun b =>
        ⟨(a.value, Spelling.sign between) :: b.value, b.rest, a.stray <|> b.stray⟩
    else .error (.expected false [.token between])

/-- A round depends only on what is read of shorter lists, since a reader goes forward and a sign is a token at least. -/
theorem round_congr {first second : Spelling → Except SyntaxError (Answer (List (α × Spelling)))}
    (sign : 0 < between.length) (h : ∀ shorter : Spelling, shorter.length < ts.length → first shorter = second shorter) :
    round between noItem noSign item first ts = round between noItem noSign item second ts := by
  unfold round
  cases read : item.run ts with
  | error e => rfl
  | ok a =>
    have forward : a.rest.length ≤ ts.length := (item.rest_suffix read).length_le
    simp only [Except.bind]
    split
    · rfl
    · split
      · rfl
      · split
        · have enough := Spelling.length_le_of_startsSign ‹_›
          rw [h (a.rest.drop between.length) (by rw [List.length_drop]; omega)]
        · rfl

theorem run_separatedWithin_succ (steps : Nat) :
    (separatedWithin between noItem noSign item (steps + 1)).run ts =
      round between noItem noSign item (separatedWithin between noItem noSign item steps).run ts := by
  rw [separatedWithin, run_next_bind, round]
  split
  · rfl
  · rw [run_bind]
    congr 1
    funext a
    rw [run_next_bind]
    split
    · simp [Except.map]
    · rw [run_bind, run_sign]
      split
      · simp only [Except.bind, bind_pure_comp, run_map, Answer.map_noted_none]
        cases (separatedWithin between noItem noSign item steps).run (a.rest.drop between.length) <;> rfl
      · rfl

/-- Rounds beyond the number of tokens make no difference. By induction on one of the two numbers of rounds. -/
theorem run_separatedWithin_congr {m n : Nat} (sign : 0 < between.length) (hm : ts.length < m) (hn : ts.length < n) :
    (separatedWithin between noItem noSign item m).run ts = (separatedWithin between noItem noSign item n).run ts := by
  induction m generalizing n ts with
  | zero => omega
  | succ m ih =>
    obtain ⟨n, rfl⟩ := Nat.exists_eq_add_one_of_ne_zero (Nat.ne_zero_of_lt hn)
    rw [run_separatedWithin_succ, run_separatedWithin_succ]
    exact round_congr sign fun shorter h => ih (by omega) (by omega)

theorem run_separated (sign : 0 < between.length) :
    (separated between noItem noSign item).run ts =
      round between noItem noSign item (separated between noItem noSign item).run ts := by
  simp only [separated, run_peek_bind]
  rw [run_separatedWithin_succ]
  refine round_congr sign fun shorter h => ?_
  rw [run_peek_bind]
  exact run_separatedWithin_congr sign h (Nat.lt_succ_self _)

end

/-! ## Items up to the end -/

section

variable {item : Parser α} {a : α} {rest : Spelling} {stray : Option Delimiter} {e : SyntaxError}

theorem run_commaSeparated : (commaSeparated item).run ts =
    ((separated "," List.isEmpty List.isEmpty item).run ts).map fun b => ⟨b.value.map (·.1), b.rest, b.stray⟩ := by
  rw [commaSeparated, bind_pure_comp, run_map]

@[simp] theorem run_commaSeparated_nil : (commaSeparated item).run [] = .ok ⟨[], [], none⟩ := by
  rw [run_commaSeparated, run_separated (by decide)]
  rfl

theorem run_commaSeparated_of_error (nonempty : ts ≠ []) (read : item.run ts = .error e) :
    (commaSeparated item).run ts = .error e := by
  rw [run_commaSeparated, run_separated (by decide)]
  simp [round, nonempty, read, Except.bind, Except.map]

theorem run_commaSeparated_of_last (nonempty : ts ≠ []) (read : item.run ts = .ok ⟨a, [], stray⟩) :
    (commaSeparated item).run ts = .ok ⟨[a], [], stray⟩ := by
  rw [run_commaSeparated, run_separated (by decide)]
  simp [round, nonempty, read, Except.bind, Except.map]

theorem run_commaSeparated_of_comma {glued : Bool} (nonempty : ts ≠ [])
    (read : item.run ts = .ok ⟨a, .sign ',' glued :: rest, stray⟩) :
    (commaSeparated item).run ts =
      ((commaSeparated item).run rest).map fun b => ⟨a :: b.value, b.rest, stray <|> b.stray⟩ := by
  rw [run_commaSeparated, run_commaSeparated, run_separated (by decide), round, read]
  have comma : Spelling.startsSign "," (.sign ',' glued :: rest) = true := rfl
  have after : (Token.sign ',' glued :: rest).drop ",".length = rest := rfl
  cases others : (separated "," List.isEmpty List.isEmpty item).run rest <;>
    simp [nonempty, comma, after, others, Except.bind, Except.map]

theorem run_commaSeparated_of_other (nonempty : ts ≠ []) (read : item.run ts = .ok ⟨a, rest, stray⟩) (more : rest ≠ [])
    (other : rest.startsSign "," = false) :
    (commaSeparated item).run ts = .error (.expected false [.token ","]) := by
  rw [run_commaSeparated, run_separated (by decide)]
  simp [round, nonempty, read, more, other, Except.bind, Except.map]

variable (item) in
/-- Tokens are a list of items with commas between them, and possibly after the last. Each item is what can be read of it,
and `stray` is the first group in which tokens are left over. -/
inductive CommaList : Spelling → List α → Option Delimiter → Prop where
  | nil : CommaList [] [] none
  | last {ts : Spelling} {a : α} {stray : Option Delimiter} (nonempty : ts ≠ []) (read : item.run ts = .ok ⟨a, [], stray⟩) :
      CommaList ts [a] stray
  | cons {ts rest : Spelling} {a : α} {as : List α} {glued : Bool} {stray stray' : Option Delimiter} (nonempty : ts ≠ [])
      (read : item.run ts = .ok ⟨a, .sign ',' glued :: rest, stray⟩) (others : CommaList rest as stray') :
      CommaList ts (a :: as) (stray <|> stray')

theorem CommaList.run {as : List α} (h : CommaList item ts as stray) :
    (commaSeparated item).run ts = .ok ⟨as, [], stray⟩ := by
  induction h with
  | nil => exact run_commaSeparated_nil
  | last nonempty read => exact run_commaSeparated_of_last nonempty read
  | cons nonempty read _ ih => rw [run_commaSeparated_of_comma nonempty read, ih]; rfl

theorem CommaList.of_run {b : Answer (List α)} (h : (commaSeparated item).run ts = .ok b) :
    b.rest = [] ∧ CommaList item ts b.value b.stray := by
  generalize length : ts.length = n
  induction n using Nat.strongRecOn generalizing ts b with
  | ind n ih =>
    by_cases nonempty : ts = []
    · subst nonempty
      rw [run_commaSeparated_nil] at h
      cases h
      exact ⟨rfl, .nil⟩
    cases read : item.run ts with
    | error e =>
      rw [run_commaSeparated_of_error nonempty read] at h
      cases h
    | ok a =>
      obtain ⟨a, rest, stray⟩ := a
      by_cases more : rest = []
      · subst more
        rw [run_commaSeparated_of_last nonempty read] at h
        cases h
        exact ⟨rfl, .last nonempty read⟩
      cases comma : rest.startsSign "," with
      | false =>
        rw [run_commaSeparated_of_other nonempty read more comma] at h
        cases h
      | true =>
        obtain ⟨glued, rest, rfl⟩ := Spelling.startsSign_comma_iff.1 comma
        rw [run_commaSeparated_of_comma nonempty read] at h
        cases others : (commaSeparated item).run rest with
        | error e => simp [others, Except.map] at h
        | ok c =>
          have shorter : rest.length < n := by
            have forward := (item.rest_suffix read).length_le
            rw [List.length_cons] at forward
            omega
          obtain ⟨atEnd, list⟩ := ih rest.length shorter others rfl
          simp only [others, Except.map, Except.ok.injEq] at h
          subst h
          exact ⟨atEnd, .cons nonempty read list⟩

theorem run_commaSeparated_eq_ok_iff {b : Answer (List α)} :
    (commaSeparated item).run ts = .ok b ↔ b.rest = [] ∧ CommaList item ts b.value b.stray := by
  refine ⟨CommaList.of_run, ?_⟩
  rintro ⟨atEnd, list⟩
  rw [list.run, ← atEnd]

theorem run_map_commaSeparated_eq_ok_iff {β : Type} {f : List α → β} {b : Answer β} :
    (f <$> commaSeparated item).run ts = .ok b ↔
      b.rest = [] ∧ ∃ as, f as = b.value ∧ CommaList item ts as b.stray := by
  rw [run_map]
  constructor
  · intro h
    cases read : (commaSeparated item).run ts with
    | error e => simp [read, Except.map] at h
    | ok a =>
      simp only [read, Except.map, Except.ok.injEq] at h
      subst h
      obtain ⟨atEnd, list⟩ := run_commaSeparated_eq_ok_iff.1 read
      exact ⟨atEnd, a.value, rfl, list⟩
  · rintro ⟨atEnd, as, value, list⟩
    rw [list.run]
    obtain ⟨b, rest, stray⟩ := b
    cases value
    cases atEnd
    rfl

end

/-! ## Lists item by item -/

section

variable {β : Type} {check : α → Except SyntaxError β} {as : List α} {bs : List β} {a : α} {e : SyntaxError}

theorem mapM_cons_of_error (failed : check a = .error e) : (a :: as).mapM check = .error e := by
  rw [List.mapM_cons, failed]
  rfl

theorem mapM_cons_of_ok {b : β} (passed : check a = .ok b) :
    (a :: as).mapM check = (as.mapM check).map fun bs => b :: bs := by
  rw [List.mapM_cons, passed]
  cases others : as.mapM check <;> rfl

theorem mapM_eq_ok_iff : as.mapM check = .ok bs ↔ List.Forall₂ (fun a b => check a = .ok b) as bs := by
  induction as generalizing bs with
  | nil =>
    rw [List.forall₂_nil_left_iff]
    exact ⟨fun h => (Except.ok.inj h).symm, fun h => by rw [h]; rfl⟩
  | cons a as ih =>
    rw [List.forall₂_cons_left_iff]
    cases checked : check a with
    | error e => simp [mapM_cons_of_error checked]
    | ok b => cases others : as.mapM check <;> simp [mapM_cons_of_ok checked, ← ih, others, eq_comm, Except.map]

end

/-! ## Items that are checked -/

section

variable {β : Type} {item : Parser α} {check : α → Except SyntaxError β} {rest : Spelling} {stray : Option Delimiter}

theorem run_check_eq_ok_iff {b : β} :
    (do check (← item) : Parser β).run ts = .ok ⟨b, rest, stray⟩ ↔
      ∃ a, item.run ts = .ok ⟨a, rest, stray⟩ ∧ check a = .ok b := by
  cases read : item.run ts with
  | error e => simp [run_bind_of_error read]
  | ok a =>
    obtain ⟨a, rest', stray'⟩ := a
    rw [run_bind_of_ok read]
    cases checked : check a <;> simp [checked, Except.map, and_comm]

theorem run_check_of_error {a : α} {e : SyntaxError} (read : item.run ts = .ok ⟨a, rest, stray⟩)
    (failed : check a = .error e) : (do check (← item) : Parser β).run ts = .error e := by
  rw [run_bind_of_ok read, failed]
  rfl

/-- Each item is checked before what comes after it is read, but for a list of items it makes no difference whether they
are checked when all are read. By induction on the list. -/
theorem CommaList.run_check {as : List α} (list : CommaList item ts as stray) :
    (commaSeparated (do check (← item))).run ts = (as.mapM check).map fun bs => ⟨bs, [], stray⟩ := by
  induction list with
  | nil => exact run_commaSeparated_nil
  | @last _ a _ nonempty read =>
    cases checked : check a with
    | error e =>
      rw [mapM_cons_of_error checked, run_commaSeparated_of_error nonempty (run_check_of_error read checked)]
      rfl
    | ok b =>
      rw [mapM_cons_of_ok checked, run_commaSeparated_of_last nonempty (run_check_eq_ok_iff.2 ⟨a, read, checked⟩)]
      rfl
  | @cons _ _ a as _ _ _ nonempty read _ ih =>
    cases checked : check a with
    | error e =>
      rw [mapM_cons_of_error checked, run_commaSeparated_of_error nonempty (run_check_of_error read checked)]
      rfl
    | ok b =>
      rw [mapM_cons_of_ok checked, run_commaSeparated_of_comma nonempty (run_check_eq_ok_iff.2 ⟨a, read, checked⟩), ih]
      cases as.mapM check <;> rfl

/-- Items are read and checked one by one: a list of checked items is a list of items that pass. -/
theorem commaList_check_iff {bs : List β} :
    CommaList (do check (← item)) ts bs stray ↔
      ∃ as, CommaList item ts as stray ∧ List.Forall₂ (fun a b => check a = .ok b) as bs := by
  constructor
  · intro h
    induction h with
    | nil => exact ⟨[], .nil, .nil⟩
    | last nonempty read =>
      obtain ⟨a, read, checked⟩ := run_check_eq_ok_iff.1 read
      exact ⟨[a], .last nonempty read, .cons checked .nil⟩
    | cons nonempty read _ ih =>
      obtain ⟨a, read, checked⟩ := run_check_eq_ok_iff.1 read
      obtain ⟨as, list, passed⟩ := ih
      exact ⟨a :: as, .cons nonempty read list, .cons checked passed⟩
  · rintro ⟨as, list, passed⟩
    have read : (commaSeparated (do check (← item))).run ts = .ok ⟨bs, [], stray⟩ := by
      rw [list.run_check, mapM_eq_ok_iff.2 passed]
      rfl
    exact (CommaList.of_run read).2

end

end Concord.Source.Parser
