import Concord.Source.Literal
import Concord.Source.Token

/-!
# Division into tokens

`Spelling.ofText?` divides a text into token trees. Blanks and comments separate tokens, and a comment that documents what
comes after it stands for an attribute with its text. Nothing is answered if a delimiter has no partner or some part of
the text is no token.
-/

namespace Concord.Source

namespace Lexer

/-- What is left of a text after its beginning. -/
def after? (start : String) (cs : List Char) : Option (List Char) :=
  if start.toList.isPrefixOf cs then some (cs.drop start.toList.length) else none

/-- A text starts with another. -/
def starts (cs : List Char) (start : String) : Bool := start.toList.isPrefixOf cs

/-- The end of a line: a line feed, after a carriage return or not. -/
def line : List Char → List Char × List Char
  | [] => ([], [])
  | '\n' :: cs => ([], '\n' :: cs)
  | '\r' :: '\n' :: cs => ([], '\n' :: cs)
  | c :: cs => (c :: (line cs).1, (line cs).2)

/-- The content of a comment between delimiters, from the first one to its partner, `depth` delimiters being open. -/
def block? (depth : Nat) : List Char → Option (List Char × List Char)
  | '/' :: '*' :: cs => (block? (depth + 1) cs).map fun (content, rest) => ('/' :: '*' :: content, rest)
  | '*' :: '/' :: cs =>
    match depth with
    | 0 | 1 => some ([], cs)
    | depth + 2 => (block? (depth + 1) cs).map fun (content, rest) => ('*' :: '/' :: content, rest)
  | c :: cs => (block? depth cs).map fun (content, rest) => (c :: content, rest)
  | [] => none

/-- A comment that says nothing to the reader of tokens. -/
def isPlainLine (cs : List Char) : Bool :=
  starts cs "//" && (!starts cs "///" || starts cs "////") && !starts cs "//!"

/-- A comment between delimiters that says nothing to the reader of tokens. -/
def isPlainBlock (cs : List Char) : Bool :=
  starts cs "/*" && (!starts cs "/**" || starts cs "/***") && !starts cs "/*!"

/-- What follows the blanks and the plain comments at the start of a text, read in at most `steps` steps. -/
def skip : Nat → List Char → List Char
  | 0, cs => cs
  | _, [] => []
  | steps + 1, c :: cs =>
    if isBlank c then skip steps cs
    else if isPlainLine (c :: cs) then skip steps (line cs).2
    else if starts (c :: cs) "/**/" then skip steps (cs.drop 3)
    else if isPlainBlock (c :: cs) then
      match block? 1 (cs.drop 1) with
      | some (_, rest) => skip steps rest
      | none => c :: cs
    else c :: cs

/-- The text of a documenting comment, whether it documents what it stands in, and what follows it. -/
def documentation? (cs : List Char) : Option (List Char × Bool × List Char) :=
  match after? "//!" cs, after? "/*!" cs, after? "///" cs, after? "/**" cs with
  | some body, _, _, _ => some ((line body).1, true, (line body).2)
  | none, some body, _, _ => (block? 1 body).map fun (content, rest) => (content, true, rest)
  | none, none, some body, _ => if starts body "/" then none else some ((line body).1, false, (line body).2)
  | none, none, none, some body =>
    if starts body "*" then none else (block? 1 body).map fun (content, rest) => (content, false, rest)
  | none, none, none, none => none

/-- Each carriage return stands before a line feed. -/
def returnsPaired : List Char → Bool
  | [] => true
  | '\r' :: cs => cs.head? == some '\n' && returnsPaired cs
  | _ :: cs => returnsPaired cs

/-- The attribute that a documenting comment stands for. -/
def documented (content : List Char) (inner : Bool) : Spelling :=
  let mark : Spelling := if inner then [.sign '#' false, .sign '!' false] else [.sign '#' false]
  mark ++ [.brackets [.word "doc", .sign '=' false, .literal (Quoted.literal (String.ofList content))]]

/-- Characters of punctuation. -/
def signs : List Char := "~!@#$%^&*-=+|;:,<.>/?\x27".toList

/-- A text starts with punctuation and with no comment. -/
def startsSign (cs : List Char) : Bool :=
  !starts cs "//" && !starts cs "/*" && cs.head?.any signs.contains

/-- The word that starts a text. A raw name has a mark, and some words cannot be raw. -/
def word? (cs : List Char) : Option (List Char × List Char) :=
  match after? "r#" cs with
  | some body => do
    let (name, rest) ← Identifier.split? body
    if Identifier.neverRaw.contains (String.ofList name) then none else some ('r' :: '#' :: name, rest)
  | none => Identifier.split? cs

/-- Beginnings of quoted literals, which start no word. -/
def quotedStarts : List String :=
  ["r\"", "r#\"", "r##", "b\"", "b\x27", "br\"", "br#", "c\"", "cr\"", "cr#"]

/-- The sign that starts a text. An apostrophe is a sign only before a name, where it starts a lifetime. -/
def sign? : List Char → Option (Token × List Char)
  | [] => none
  | c :: cs =>
    if !startsSign (c :: cs) then none
    else if c = '\x27' then do
      let (_, rest) ← word? cs
      if starts rest "\x27" || (starts rest "#" && !starts cs "r#") then none else some (.sign c true, cs)
    else some (.sign c (startsSign cs), cs)

/-- The token other than a group that starts a text. -/
def leaf? (cs : List Char) : Option (Token × List Char) :=
  match Literal.after? cs with
  | some rest => some (.literal (String.ofList (cs.take (cs.length - rest.length))), rest)
  | none =>
    match sign? cs with
    | some found => some found
    | none =>
      if quotedStarts.any (starts cs) then none
      else
        match word? cs with
        | some (name, rest) => some (.word (String.ofList name), rest)
        | none => (after? Literal.placeholder cs).map fun rest => (.literal Literal.placeholder, rest)

/-- The delimiter of the group that a text starts. -/
def opening? (cs : List Char) : Option Delimiter :=
  if starts cs Literal.placeholder then none else cs.head?.bind Delimiter.ofOpening?

/-- The groups around a place in a text, innermost first: the delimiter of each and the tokens before it, last first. -/
abbrev Frames := List (Delimiter × List Token)

/-- Divides a text of at most `steps` characters, given the open groups and the tokens read in the innermost one, last
first. -/
def run? : Nat → List Char → Frames → List Token → Option Spelling
  | 0, cs, frames, read => if cs.isEmpty && frames.isEmpty then some read.reverse else none
  | steps + 1, text, frames, read =>
    match skip text.length text with
    | [] => if frames.isEmpty then some read.reverse else none
    | c :: cs =>
      match documentation? (c :: cs) with
      | some (content, inner, rest) =>
        if returnsPaired content then run? steps rest frames ((documented content inner).reverse ++ read) else none
      | none =>
        match opening? (c :: cs), Delimiter.ofClosing? c with
        | some d, _ => run? steps cs ((d, read) :: frames) []
        | none, some d =>
          match frames with
          | (e, before) :: outer => if d = e then run? steps cs outer (.group d read.reverse :: before) else none
          | [] => none
        | none, none =>
          match leaf? (c :: cs) with
          | some (token, rest) => run? steps rest frames (token :: read)
          | none => none

end Lexer

/-- The tokens of a text. A mark of byte order in front is no part of it. -/
def Spelling.ofText? (text : String) : Option Spelling :=
  let cs := text.toList
  let body := if cs.head? = some '\ufeff' then cs.drop 1 else cs
  Lexer.run? body.length body [] []

end Concord.Source
