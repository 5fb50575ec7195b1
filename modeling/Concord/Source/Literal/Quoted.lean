import Concord.Source.Identifier
import Concord.Source.Literal.Printable

/-!
# Quoted literals

A quoted literal is a text between double quotes, with escapes or raw, or one character between apostrophes. Each reader
answers what the literal denotes and what follows it, and nothing if the literal is malformed. Bytes and zero-terminated
texts have the same shape as texts and other rules on what they can hold.
-/

namespace Concord.Source

/-- What a quoted literal denotes. -/
inductive Content where
  /-- Characters. -/
  | text
  /-- Bytes, written in ASCII. -/
  | bytes
  /-- A text with no zero in it. -/
  | zeroTerminated
  deriving DecidableEq, Repr

namespace Content

/-- A character that can be written as it is. -/
def holds : Content → Char → Bool
  | text, _ => true
  | bytes, c => c.toNat < 128
  | zeroTerminated, c => c.toNat != 0

/-- A code that can be written with two hexadecimal digits. -/
def holdsHex : Content → Nat → Bool
  | text, n => n < 128
  | bytes, _ => true
  | zeroTerminated, n => n != 0

/-- A character that can be written by its code point. -/
def holdsScalar : Content → Char → Bool
  | text, _ => true
  | bytes, _ => false
  | zeroTerminated, c => c.toNat != 0

end Content

namespace Quoted

/-- The value of a hexadecimal digit. -/
def hexDigit? (c : Char) : Option Nat :=
  if '0' ≤ c ∧ c ≤ '9' then some (c.toNat - '0'.toNat)
  else if 'a' ≤ c ∧ c ≤ 'f' then some (c.toNat - 'a'.toNat + 10)
  else if 'A' ≤ c ∧ c ≤ 'F' then some (c.toNat - 'A'.toNat + 10)
  else none

/-- The character written by one to six hexadecimal digits, underscores among them, up to a closing brace. -/
def scalar? (digits value : Nat) : List Char → Option (Char × List Char)
  | [] => none
  | c :: cs =>
    match hexDigit? c with
    | some d => if digits < 6 then scalar? (digits + 1) (value * 16 + d) cs else none
    | none =>
      if digits = 0 then none
      else if c = '_' then scalar? digits value cs
      else if c = '\x7d' ∧ value.isValidChar then some (Char.ofNat value, cs)
      else none

/-- The character that an escape stands for, after the backslash. -/
def escape? (k : Content) : List Char → Option (Char × List Char)
  | 'n' :: cs => some ('\n', cs)
  | 'r' :: cs => some ('\r', cs)
  | 't' :: cs => some ('\t', cs)
  | '\\' :: cs => some ('\\', cs)
  | '\x27' :: cs => some ('\x27', cs)
  | '\x22' :: cs => some ('\x22', cs)
  | '0' :: cs => if k.holds '\x00' then some ('\x00', cs) else none
  | 'x' :: c :: d :: cs => do
    let n := (← hexDigit? c) * 16 + (← hexDigit? d)
    if k.holdsHex n then some (Char.ofNat n, cs) else none
  | 'u' :: '\x7b' :: cs => do
    let (c, rest) ← scalar? 0 0 cs
    if k.holdsScalar c then some (c, rest) else none
  | _ => none

/-- What follows the blanks at the start of a continued line. A carriage return is a blank only before a line feed. -/
def skipBlanks? : List Char → Option (List Char)
  | '\r' :: '\n' :: cs => skipBlanks? cs
  | '\r' :: _ => none
  | ' ' :: cs => skipBlanks? cs
  | '\t' :: cs => skipBlanks? cs
  | '\n' :: cs => skipBlanks? cs
  | c :: cs => some (c :: cs)
  | [] => none

/-- The content of a text with escapes up to its closing quote, read in at most `steps` steps. A backslash at the end of a
line continues the text on the next line. -/
def cooked? (k : Content) : Nat → List Char → Option (List Char × List Char)
  | 0, _ => none
  | _, [] => none
  | steps + 1, c :: cs =>
    if c = '\x22' then some ([], cs)
    else if c = '\r' then
      match cs with
      | '\n' :: rest => (cooked? k steps rest).map fun (content, after) => ('\n' :: content, after)
      | _ => none
    else if c = '\\' then
      if cs.head? = some '\n' ∨ cs.head? = some '\r' then (skipBlanks? cs).bind (cooked? k steps)
      else do
        let (d, rest) ← escape? k cs
        (cooked? k steps rest).map fun (content, after) => (d :: content, after)
    else if k.holds c then (cooked? k steps cs).map fun (content, after) => (c :: content, after)
    else none

/-- The content of a raw text up to a quote with so many number signs after it. -/
def rawBody? (k : Content) (signs : Nat) : List Char → Option (List Char × List Char)
  | [] => none
  | '\r' :: '\n' :: cs => (rawBody? k signs cs).map fun (content, after) => ('\r' :: '\n' :: content, after)
  | c :: cs =>
    if c = '\x22' ∧ (List.replicate signs '#').isPrefixOf cs then some ([], cs.drop signs)
    else if c = '\r' then none
    else if k.holds c then (rawBody? k signs cs).map fun (content, after) => (c :: content, after)
    else none

/-- The content of a raw text, from its number signs on. There are at most 255 of them. -/
def raw? (k : Content) (cs : List Char) : Option (List Char × List Char) :=
  let signs := (cs.takeWhile (· == '#')).length
  match cs.drop signs with
  | '\x22' :: body => if signs ≤ 255 then rawBody? k signs body else none
  | _ => none

/-- One character between apostrophes, from the first apostrophe on. -/
def character? (k : Content) : List Char → Option (List Char × List Char)
  | '\x27' :: '\\' :: cs =>
    match escape? k cs with
    | some (c, '\x27' :: rest) => some ([c], rest)
    | _ => none
  | '\x27' :: c :: '\x27' :: rest => if k.holds c then some ([c], rest) else none
  | _ => none

/-- The text that starts a list of characters, marked by a letter in front if it is not plain: with escapes after the
mark, or raw after the mark and an `r`. -/
def marked? (k : Content) (mark : List Char) (cs : List Char) : Option (List Char × List Char) :=
  if mark.isPrefixOf cs then
    match cs.drop mark.length with
    | '\x22' :: body => cooked? k cs.length body
    | 'r' :: body => raw? k body
    | _ => none
  else none

/-- The text literal that starts a list of characters. -/
def text? (cs : List Char) : Option (List Char × List Char) := marked? .text [] cs

/-- The quoted literal of any form that starts a list of characters. -/
def read? (cs : List Char) : Option (List Char × List Char) :=
  text? cs <|> marked? .bytes ['b'] cs <|> marked? .zeroTerminated ['c'] cs <|>
    (match cs with
      | 'b' :: rest => character? .bytes rest
      | _ => character? .text cs)

/-- A code point in lower-case hexadecimal digits. -/
def hexText (n : Nat) : List Char := Nat.toDigits 16 n

/-- A character as it is written between double quotes, before other characters or none. Quotes, backslashes, and what is
not printable are escaped. A zero takes its longer form before an octal digit. -/
def escapeOne (c : Char) (after : List Char) : List Char :=
  if c = '\x22' ∨ c = '\\' then ['\\', c]
  else if c = '\n' then ['\\', 'n']
  else if c = '\r' then ['\\', 'r']
  else if c = '\t' then ['\\', 't']
  else if c = '\x00' then if after.head?.any fun d => '0' ≤ d && d ≤ '7' then "\\x00".toList else ['\\', '0']
  else if isPrintable c then [c]
  else ['\\', 'u', '\x7b'] ++ hexText c.toNat ++ ['\x7d']

/-- A text as it is written between double quotes. -/
def escape : List Char → List Char
  | [] => []
  | c :: cs => escapeOne c cs ++ escape cs

/-- The literal for a text. -/
def literal (s : String) : String := "\"" ++ String.ofList (escape s.toList) ++ "\""

end Quoted

end Concord.Source
