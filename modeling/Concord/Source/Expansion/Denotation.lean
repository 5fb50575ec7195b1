import Concord.Source.Expansion.Identity
import Mathlib.Data.List.Forall2

/-!
# What an expansion denotes

An operand that is no literal is a constant whose value is a text. In its scope a number in an expansion denotes itself
and a call denotes the answer of its function for that text, which can be an overflow. A stream and an identity denote
something if each of their nibbles denotes a nibble, and what they denote can be read off the tokens in one way only.
-/

namespace Concord.Source.Expansion

section

variable (operand : Spelling) (text : String)

/-- The operands that denote the text: itself as a literal, and the tokens that have it as their value. -/
inductive DenotesText : TextOperand → Prop where
  | literal : DenotesText (.literal text)
  | deferred : DenotesText (.deferred operand)

/-- What a nibble denotes where the operand has the text as its value. -/
inductive DenotesNibble : Spelling → Except Overflow Nibble → Prop where
  | number (n : Nibble) : DenotesNibble (written n) (.ok n)
  | hashCall (n : UInt8) :
      DenotesNibble (nibbleCall "hash_nibble" operand (number n.toNat "u8")) (Fnv.nibbleAt text.toUTF8 n)
  | identityCall (n : UInt64) :
      DenotesNibble (nibbleCall "identity_nibble" operand (number n.toNat "usize"))
        (Sample.Evaluated.nibbleAt text.toUTF8 n)

/-- The nibbles of a block, each denoted by the spelling at its place. -/
def DenotesBlock (nibbles : List Spelling) (block : Vector Nibble 16) : Prop :=
  List.Forall₂ (fun spelling n => DenotesNibble operand text spelling (.ok n)) nibbles block.toList

/-- A written stream denotes the one that repeats its block. -/
inductive DenotesStream : Spelling → NibbleStream → Prop where
  | repeated {nibbles : List Spelling} {block : Vector Nibble 16} (denoted : DenotesBlock operand text nibbles block) :
      DenotesStream (stream nibbles) (.cyclic block)

/-- A written identity denotes its chunks, the outermost first. -/
inductive DenotesIdentity : Spelling → Identity → Prop where
  | done : DenotesIdentity identityEnd .done
  | chunk {nibbles : List Spelling} {block : Vector Nibble 16} {rest : Spelling} {i : Identity}
      (denoted : DenotesBlock operand text nibbles block) (tail : DenotesIdentity rest i) :
      DenotesIdentity (identityChunk nibbles rest) (.chunk (.cyclic block) i)

end

section

variable {operand rest rest' : Spelling} {text : String} {nibbles nibbles' : List Spelling}
  {block block' : Vector Nibble 16}

theorem number_injective {m n : Nat} {type : String} (h : number m type = number n type) : m = n := by
  have literal : m.repr ++ type = n.repr ++ type := Token.literal.inj (List.singleton_inj.1 h)
  have digits : Nat.toDigits 10 m = Nat.toDigits 10 n := by
    rw [← Nat.toList_repr, ← Nat.toList_repr, (String.append_left_inj type).1 literal]
  simpa using congrArg (Nat.ofDigitChars 10 · 0) digits

theorem primitive_pair (module item : String) :
    primitive [module, item] =
      (Spelling.path true [library, "primitives", module] ++ Spelling.sign "::") ++ Spelling.word item := by
  simp [primitive, Spelling.path, List.intercalate_cons_cons]

theorem nibbleCall_inj {f g : String} {p q : Spelling} (h : nibbleCall f operand p = nibbleCall g operand q) :
    f = g ∧ p = q := by
  simpa [nibbleCall, Token.braces, Token.parens, primitive_pair, Spelling.word] using h

theorem written_ne_nibbleCall (n : Nibble) (f : String) (p : Spelling) : written n ≠ nibbleCall f operand p := by
  simp [written, number, nibbleCall, Token.braces]

namespace DenotesNibble

variable {spelling : Spelling} {a b : Except Overflow Nibble}

theorem cases_spelling (h : DenotesNibble operand text spelling a) :
    (∃ n, spelling = written n ∧ a = .ok n) ∨
      (∃ n : UInt8, spelling = nibbleCall "hash_nibble" operand (Expansion.number n.toNat "u8") ∧
        a = Fnv.nibbleAt text.toUTF8 n) ∨
      ∃ n : UInt64, spelling = nibbleCall "identity_nibble" operand (Expansion.number n.toNat "usize") ∧
        a = Sample.Evaluated.nibbleAt text.toUTF8 n := by
  cases h with
  | number n => exact .inl ⟨n, rfl, rfl⟩
  | hashCall n => exact .inr (.inl ⟨n, rfl, rfl⟩)
  | identityCall n => exact .inr (.inr ⟨n, rfl, rfl⟩)

theorem unique (h : DenotesNibble operand text spelling a) (h' : DenotesNibble operand text spelling b) : a = b := by
  cases h with
  | number n =>
    obtain ⟨m, same, rfl⟩ | ⟨m, same, -⟩ | ⟨m, same, -⟩ := h'.cases_spelling
    · rw [Fin.val_inj.1 (number_injective same)]
    · exact absurd same (written_ne_nibbleCall _ _ _)
    · exact absurd same (written_ne_nibbleCall _ _ _)
  | hashCall n =>
    obtain ⟨m, same, -⟩ | ⟨m, same, rfl⟩ | ⟨m, same, -⟩ := h'.cases_spelling
    · exact absurd same.symm (written_ne_nibbleCall _ _ _)
    · rw [UInt8.toNat_inj.1 (number_injective (nibbleCall_inj same).2)]
    · exact absurd (nibbleCall_inj same).1 (by decide)
  | identityCall n =>
    obtain ⟨m, same, -⟩ | ⟨m, same, -⟩ | ⟨m, same, rfl⟩ := h'.cases_spelling
    · exact absurd same.symm (written_ne_nibbleCall _ _ _)
    · exact absurd (nibbleCall_inj same).1 (by decide)
    · rw [UInt64.toNat_inj.1 (number_injective (nibbleCall_inj same).2)]

theorem exists_token (h : DenotesNibble operand text spelling a) : ∃ t, spelling = [t] := by
  cases h with
  | number n => exact ⟨_, rfl⟩
  | hashCall n => exact ⟨_, rfl⟩
  | identityCall n => exact ⟨_, rfl⟩

theorem exists_tokens {digits : List Nibble}
    (h : List.Forall₂ (fun spelling n => DenotesNibble operand text spelling (.ok n)) nibbles digits) :
    ∃ ts : List Token, ts.length = digits.length ∧ nibbles = ts.map ([·]) := by
  induction h with
  | nil => exact ⟨[], rfl, rfl⟩
  | cons denoted _ ih =>
    obtain ⟨t, rfl⟩ := denoted.exists_token
    obtain ⟨ts, length, rfl⟩ := ih
    exact ⟨t :: ts, congrArg (· + 1) length, rfl⟩

end DenotesNibble

theorem DenotesBlock.unique (h : DenotesBlock operand text nibbles block)
    (h' : DenotesBlock operand text nibbles block') : block = block' := by
  have functional : Relator.RightUnique fun spelling n => DenotesNibble operand text spelling (.ok n) :=
    fun _ _ _ d d' => Except.ok.inj (d.unique d')
  exact Vector.toList_inj.1 (functional.forall₂ h h')

/-- A nibble is one token, so commas between nibbles say where each ends, and the number of nibbles where all end. -/
theorem commas_append_inj {ts us : List Token} (length : ts.length = us.length)
    (h : Spelling.commas (ts.map ([·])) ++ rest = Spelling.commas (us.map ([·])) ++ rest') : ts = us ∧ rest = rest' := by
  induction ts generalizing us with
  | nil =>
    obtain rfl := List.eq_nil_of_length_eq_zero length.symm
    exact ⟨rfl, h⟩
  | cons t ts ih =>
    obtain ⟨u, us, rfl⟩ := List.exists_cons_of_length_eq_add_one length.symm
    replace length : ts.length = us.length := Nat.succ.inj length
    cases ts with
    | nil =>
      obtain rfl := List.eq_nil_of_length_eq_zero length.symm
      simpa [Spelling.commas] using h
    | cons t' ts =>
      obtain ⟨u', us, rfl⟩ := List.exists_cons_of_length_eq_add_one length.symm
      simp only [Spelling.commas, List.map_cons, List.intercalate_cons_cons, List.append_assoc, List.cons_append,
        List.nil_append, List.cons.injEq, List.append_cancel_left_eq] at h
      obtain ⟨rfl, tails⟩ := h
      obtain ⟨equal, rests⟩ := ih length tails
      exact ⟨congrArg (t :: ·) equal, rests⟩

theorem DenotesBlock.exists_tokens (h : DenotesBlock operand text nibbles block) :
    ∃ ts : List Token, ts.length = 16 ∧ nibbles = ts.map ([·]) := by
  simpa using DenotesNibble.exists_tokens h

/-- Where a stream ends and which nibbles are in it can be read off the tokens. -/
theorem stream_append_inj (h : DenotesBlock operand text nibbles block) (h' : DenotesBlock operand text nibbles' block')
    (equal : stream nibbles ++ rest = stream nibbles' ++ rest') : nibbles = nibbles' ∧ rest = rest' := by
  obtain ⟨ts, length, rfl⟩ := h.exists_tokens
  obtain ⟨us, length', rfl⟩ := h'.exists_tokens
  simp only [stream, List.append_assoc, List.append_cancel_left_eq] at equal
  obtain ⟨rfl, ends⟩ := commas_append_inj (length.trans length'.symm) equal
  exact ⟨rfl, List.append_cancel_left ends⟩

theorem DenotesStream.unique {spelling : Spelling} {s t : NibbleStream} (h : DenotesStream operand text spelling s)
    (h' : DenotesStream operand text spelling t) : s = t := by
  obtain @⟨nibbles, block, denoted⟩ := h
  generalize same : stream nibbles = spelling at h'
  obtain @⟨nibbles', block', denoted'⟩ := h'
  obtain ⟨rfl, -⟩ := stream_append_inj denoted denoted' (congrArg (· ++ []) same)
  rw [denoted.unique denoted']

theorem identityEnd_ne_identityChunk : identityEnd ≠ identityChunk nibbles rest := by
  simp [identityEnd, identityChunk, primitive_pair, Spelling.word]

theorem identityChunk_inj (h : DenotesBlock operand text nibbles block) (h' : DenotesBlock operand text nibbles' block')
    (equal : identityChunk nibbles rest = identityChunk nibbles' rest') : nibbles = nibbles' ∧ rest = rest' := by
  simp only [identityChunk, Spelling.commas, List.intercalate_cons_cons, List.append_assoc,
    List.append_cancel_left_eq] at equal
  obtain ⟨rfl, rests⟩ := stream_append_inj h h' equal
  exact ⟨rfl, by simpa using rests⟩

/-- By induction on the chunks that the first reading finds. -/
theorem DenotesIdentity.unique {spelling : Spelling} {i j : Identity} (h : DenotesIdentity operand text spelling i)
    (h' : DenotesIdentity operand text spelling j) : i = j := by
  induction h generalizing j with
  | done =>
    generalize same : identityEnd = spelling at h'
    cases h' with
    | done => rfl
    | chunk => exact absurd same identityEnd_ne_identityChunk
  | @chunk nibbles block rest i denoted tail ih =>
    generalize same : identityChunk nibbles rest = spelling at h'
    cases h' with
    | done => exact absurd same.symm identityEnd_ne_identityChunk
    | chunk denoted' tail' =>
      obtain ⟨rfl, rfl⟩ := identityChunk_inj denoted denoted' same
      rw [denoted.unique denoted', ih tail']

end

end Concord.Source.Expansion
