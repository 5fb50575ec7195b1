/-!
# Tokens

Source text is a list of token trees: words, signs, literals, and groups in matching delimiters. `Spelling.text` writes
a list with one space between neighbours, and none after a sign that is glued to the next one.
-/

namespace Concord.Source

/-- The delimiters of a group. -/
inductive Delimiter where
  | parenthesis
  | brace
  | bracket
  deriving DecidableEq, Repr

namespace Delimiter

def opening : Delimiter → Char
  | parenthesis => '('
  | brace => '\x7b'
  | bracket => '['

def closing : Delimiter → Char
  | parenthesis => ')'
  | brace => '\x7d'
  | bracket => ']'

/-- The delimiter that a character opens. -/
def ofOpening? (c : Char) : Option Delimiter := [parenthesis, brace, bracket].find? (·.opening == c)

/-- The delimiter that a character closes. -/
def ofClosing? (c : Char) : Option Delimiter := [parenthesis, brace, bracket].find? (·.closing == c)

theorem ofOpening?_opening (d : Delimiter) : ofOpening? d.opening = some d := by
  cases d <;> rfl

theorem ofClosing?_closing (d : Delimiter) : ofClosing? d.closing = some d := by
  cases d <;> rfl

end Delimiter

/-- A token tree. -/
inductive Token where
  /-- A name or a reserved word, a raw name with its mark. -/
  | word (text : String)
  /-- One character of punctuation, glued to the character after it or not. -/
  | sign (char : Char) (glued : Bool)
  /-- A literal as it is written. -/
  | literal (text : String)
  | group (delimiter : Delimiter) (content : List Token)
  deriving Repr

/-- A list of token trees in order. -/
abbrev Spelling := List Token

namespace Token

/-- No space is written after the token. -/
def isGlued : Token → Bool
  | sign _ glued => glued
  | _ => false

mutual

/-- The text of a token. Braces have a blank inside on either side, one in all if they hold nothing. -/
def text : Token → String
  | word s => s
  | sign c _ => c.toString
  | literal s => s
  | group .parenthesis content => "(" ++ line content ++ ")"
  | group .bracket content => "[" ++ line content ++ "]"
  | group .brace content => "\x7b " ++ line content ++ (if content.isEmpty then "" else " ") ++ "\x7d"

/-- The texts of tokens on one line. -/
def line : List Token → String
  | [] => ""
  | t :: ts => t.text ++ ((if ts.isEmpty || t.isGlued then "" else " ") ++ line ts)

end

mutual

/-- The number of tokens in a tree, groups counted with what they hold. -/
def weight : Token → Nat
  | group _ content => weights content + 1
  | _ => 1

/-- The number of tokens in a list of trees. -/
def weights : List Token → Nat
  | [] => 0
  | t :: ts => t.weight + weights ts

end

theorem weight_pos (t : Token) : 0 < t.weight := by
  cases t <;> simp [weight]

theorem weights_append (ts us : List Token) : weights (ts ++ us) = weights ts + weights us := by
  induction ts with
  | nil => simp [weights]
  | cons t ts ih => rw [List.cons_append, weights, weights, ih, Nat.add_assoc]

theorem weights_le_of_suffix {ts us : List Token} (h : ts <:+ us) : weights ts ≤ weights us := by
  obtain ⟨front, rfl⟩ := h
  rw [weights_append]
  exact Nat.le_add_left _ _

theorem weights_lt_of_suffix {ts us : List Token} (h : ts <:+ us) (shorter : ts.length < us.length) :
    weights ts < weights us := by
  obtain ⟨front, rfl⟩ := h
  cases front with
  | nil => simp at shorter
  | cons t front =>
    rw [List.cons_append, weights, weights_append]
    have := weight_pos t
    omega

/-- A group in parentheses. -/
def parens (content : List Token) : Token := group .parenthesis content

/-- A group in square brackets. -/
def brackets (content : List Token) : Token := group .bracket content

/-- A group in braces. -/
def braces (content : List Token) : Token := group .brace content

end Token

namespace Spelling

/-- The text of a list of tokens. -/
def text (s : Spelling) : String := Token.line s

@[simp] theorem text_nil : text [] = "" := rfl

@[simp] theorem text_singleton (t : Token) : text [t] = t.text := by
  simp [text, Token.line]

theorem text_cons_cons (t u : Token) (s : Spelling) :
    text (t :: u :: s) = t.text ++ ((if t.isGlued then "" else " ") ++ text (u :: s)) := by
  simp [text, Token.line]

/-- A sign of several characters, glued within and not to what follows. -/
def ofSign : List Char → Spelling
  | [] => []
  | [c] => [.sign c false]
  | c :: cs => .sign c true :: ofSign cs

/-- A sign written in one string. -/
def sign (s : String) : Spelling := ofSign s.toList

/-- A word. -/
def word (s : String) : Spelling := [.word s]

/-- Names with double colons between them and, if `rooted`, in front. -/
def path (rooted : Bool) (names : List String) : Spelling :=
  (if rooted then sign "::" else []) ++ (sign "::").intercalate (names.map word)

/-- Spellings with commas between them. -/
def commas (items : List Spelling) : Spelling := (sign ",").intercalate items

end Spelling

end Concord.Source
