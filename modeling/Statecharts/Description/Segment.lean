import Statecharts.Description.Token
import Statecharts.Text.CharClass

/-!
# Segments of a description

Every text is cut, from left to right and without gaps, into segments.  A segment is as long as its
class admits: a comment ends before the line feed, a string at the next quote, a word at the first
character that cannot continue it.  A slash that starts no comment, a quote that no later quote
closes, and a character of no class are segments too, so a fault never stops the cutting.
-/

namespace Statecharts.Description

inductive Segment
  | blank (c : Char)
  | comment (body : List Char)
  | bracket (kind : TokenKind) (c : Char)
  | string (body : List Char)
  | word (letters : List Char)
  | loneSlash
  | openString (body : List Char)
  | rune (c : Char)
  deriving DecidableEq, Repr

def isBlank (c : Char) : Bool :=
  c = ' ' || c = '\t' || c = '\r' || c = '\n'

def bracket? : Char → Option TokenKind
  | '(' => some .leftParen
  | ')' => some .rightParen
  | '{' => some .leftBrace
  | '}' => some .rightBrace
  | '[' => some .leftBracket
  | ']' => some .rightBracket
  | _ => none

def isWordChar (c : Char) : Bool :=
  Text.isLetter c || Text.isNumber c || c = '_'

namespace Segment

def text : Segment → List Char
  | .blank c => [c]
  | .comment body => '/' :: '/' :: body
  | .bracket _ c => [c]
  | .string body => '"' :: body ++ ['"']
  | .word letters => letters
  | .loneSlash => ['/']
  | .openString body => '"' :: body
  | .rune c => [c]

def cutSlash : List Char → Segment × List Char
  | '/' :: rest => (.comment (rest.takeWhile (· ≠ '\n')), rest.dropWhile (· ≠ '\n'))
  | rest => (.loneSlash, rest)

def cutQuote (rest : List Char) : Segment × List Char :=
  match rest.dropWhile (· ≠ '"') with
  | [] => (.openString rest, [])
  | _ :: later => (.string (rest.takeWhile (· ≠ '"')), later)

/-- The segment that begins with the given character, and the text behind it. -/
def cut (c : Char) (rest : List Char) : Segment × List Char :=
  if isBlank c then (.blank c, rest)
  else if c = '/' then cutSlash rest
  else if c = '"' then cutQuote rest
  else
    match bracket? c with
    | some kind => (.bracket kind c, rest)
    | none =>
      if Text.isLetter c then
        (.word (c :: rest.takeWhile isWordChar), rest.dropWhile isWordChar)
      else (.rune c, rest)

theorem length_dropWhile_le (p : Char → Bool) (text : List Char) :
    (text.dropWhile p).length ≤ text.length :=
  (List.dropWhile_sublist p).length_le

theorem length_cut_le (c : Char) (rest : List Char) :
    (cut c rest).2.length ≤ rest.length := by
  unfold cut
  split
  · exact Nat.le_refl _
  split
  · unfold cutSlash
    split
    · exact Nat.le_trans (length_dropWhile_le _ _) (Nat.le_succ _)
    · exact Nat.le_refl _
  split
  · unfold cutQuote
    split
    · exact Nat.zero_le _
    · rename_i later heq
      have hlength := length_dropWhile_le (· ≠ '"') rest
      rw [heq] at hlength
      exact Nat.le_trans (Nat.le_succ _) hlength
  split
  · exact Nat.le_refl _
  split
  · exact length_dropWhile_le _ _
  · exact Nat.le_refl _

/-- What a segment contributes to the token list. -/
def token? : Segment → Option (TokenKind × String)
  | .bracket kind _ => some (kind, "")
  | .string body => some (.stringLiteral, String.ofList body)
  | .word letters =>
    let word := String.ofList letters
    some ((keyword? word).getD .identifier, word)
  | _ => none

/-- What a segment contributes to the error list. -/
def fault? : Segment → Option LexicalFault
  | .loneSlash => some .singleSlash
  | .openString _ => some .unterminatedString
  | .rune c => some (.unsupportedRune c)
  | _ => none

end Segment

def segments : List Char → List Segment
  | [] => []
  | c :: rest => (Segment.cut c rest).1 :: segments (Segment.cut c rest).2
termination_by text => text.length
decreasing_by
  exact Nat.lt_succ_of_le (Segment.length_cut_le c rest)

end Statecharts.Description
