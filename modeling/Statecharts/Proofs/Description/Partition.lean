import Mathlib.Data.List.TakeWhile
import Statecharts.Description.Segment

/-!
# The partition of a description

The classes of the description language, each with what may stand behind a
segment of the class: a word is followed by no character that could continue
it, a comment by a line feed or nothing, a lone slash by no second one.  A
text falls apart into such segments in one way only, and cutting from left to
right finds it.
-/

namespace Statecharts.Description

def blanks : List Char :=
  [' ', '\t', '\r', '\n']

def brackets : List (Char × TokenKind) :=
  [('(', .leftParen), (')', .rightParen), ('{', .leftBrace),
    ('}', .rightBrace), ('[', .leftBracket), (']', .rightBracket)]

def WordChar (c : Char) : Prop :=
  Text.isLetter c ∨ Text.isNumber c ∨ c = '_'

instance : DecidablePred WordChar :=
  fun _ => inferInstanceAs (Decidable (_ ∨ _ ∨ _))

/-- A segment of the language, with a text that leaves it as long as it is. -/
inductive Segment.Fits : Segment → List Char → Prop
  | blank {c : Char} {rest : List Char} :
      c ∈ blanks → Fits (.blank c) rest
  | comment {body rest : List Char} :
      '\n' ∉ body → (∀ c ∈ rest.head?, c = '\n') → Fits (.comment body) rest
  | bracket {kind : TokenKind} {c : Char} {rest : List Char} :
      (c, kind) ∈ brackets → Fits (.bracket kind c) rest
  | string {body rest : List Char} :
      '"' ∉ body → Fits (.string body) rest
  | word {c : Char} {letters rest : List Char} :
      Text.isLetter c → (∀ d ∈ letters, WordChar d) →
      (∀ d ∈ rest.head?, ¬ WordChar d) → Fits (.word (c :: letters)) rest
  | loneSlash {rest : List Char} :
      '/' ∉ rest.head? → Fits .loneSlash rest
  | openString {body : List Char} :
      '"' ∉ body → Fits (.openString body) []
  | rune {c : Char} {rest : List Char} :
      c ∉ blanks → c ≠ '/' → c ≠ '"' → c ∉ brackets.map Prod.fst →
      ¬ Text.isLetter c → Fits (.rune c) rest

/-- Consecutive segments that make up a text, none of which could go on. -/
inductive Partition : List Char → List Segment → Prop
  | nil : Partition [] []
  | cons {segment : Segment} {rest : List Char} {segments : List Segment} :
      segment.Fits rest → Partition rest segments →
      Partition (segment.text ++ rest) (segment :: segments)

theorem Partition.flatMap_text
    {text : List Char} {segments : List Segment}
    (hpartition : Partition text segments) :
    segments.flatMap Segment.text = text := by
  induction hpartition with
  | nil => rfl
  | cons _ _ ih => simp [ih]

/-! ## Classes of a first character -/

theorem isBlank_iff (c : Char) :
    isBlank c = true ↔ c ∈ blanks := by
  simp [isBlank, blanks, or_assoc]

theorem isWordChar_iff (c : Char) :
    isWordChar c = true ↔ WordChar c := by
  simp [isWordChar, WordChar, or_assoc]

theorem bracket?_eq_some_iff (c : Char) (kind : TokenKind) :
    bracket? c = some kind ↔ (c, kind) ∈ brackets := by
  unfold bracket?
  split <;> simp_all [brackets, eq_comm]

theorem bracket?_eq_none_iff (c : Char) :
    bracket? c = none ↔ c ∉ brackets.map Prod.fst := by
  simp [← bracket?_eq_some_iff, Option.eq_none_iff_forall_ne_some]

/-- No class but the words begins with a letter, so the order in which the
classes are tried does not matter to a word. -/
theorem isLetter_eq_false_of_reserved {c : Char}
    (hmem : c ∈ '/' :: '"' :: (blanks ++ brackets.map Prod.fst)) :
    Text.isLetter c = false := by
  have hall : ('/' :: '"' :: (blanks ++ brackets.map Prod.fst)).all
      (!Text.isLetter ·) = true := by
    decide
  simpa using List.all_eq_true.mp hall c hmem

theorem outer_of_mem_brackets :
    ∀ pair ∈ brackets,
      isBlank pair.1 = false ∧ pair.1 ≠ '/' ∧ pair.1 ≠ '"' := by
  decide

theorem span_of_stop
    (p : Char → Bool) (body rest : List Char)
    (hbody : ∀ c ∈ body, p c = true)
    (hstop : ∀ c ∈ rest.head?, p c = false) :
    (body ++ rest).takeWhile p = body ∧
      (body ++ rest).dropWhile p = rest := by
  rw [List.takeWhile_append_of_pos hbody, List.dropWhile_append_of_pos hbody]
  cases rest with
  | nil =>
      simp
  | cons c rest =>
      have hc : p c = false := hstop c rfl
      simp [hc]

theorem stop_dropWhile (p : Char → Bool) (text : List Char) :
    ∀ c ∈ (text.dropWhile p).head?, p c = false := by
  intro c hc
  have hhead := List.head?_dropWhile_not p text
  rw [Option.mem_def.mp hc] at hhead
  simpa using hhead

/-! ## One cut -/

theorem Segment.cut_slash (rest : List Char) :
    cut '/' rest = cutSlash rest := by
  simp [cut, isBlank]

theorem Segment.cut_quote (rest : List Char) :
    cut '"' rest = cutQuote rest := by
  simp [cut, isBlank]

theorem Segment.text_cut (c : Char) (rest : List Char) :
    (cut c rest).1.text ++ (cut c rest).2 = c :: rest := by
  unfold cut
  split
  next => rfl
  split
  next =>
    subst c
    unfold cutSlash
    split
    next later => simp [text]
    next => rfl
  split
  next =>
    subst c
    unfold cutQuote
    split
    next hdrop => simp [text]
    next quote later hdrop =>
      have hquote : quote = '"' := by
        have hstop := stop_dropWhile (· ≠ '"') rest
        rw [hdrop] at hstop
        simpa using hstop
      have hsplit := List.takeWhile_append_dropWhile (p := (· ≠ '"')) (l := rest)
      rw [hdrop, hquote] at hsplit
      simpa [text] using hsplit
  split
  next => rfl
  split
  next => simp [text]
  next => rfl

theorem Segment.fits_cut (c : Char) (rest : List Char) :
    (cut c rest).1.Fits (cut c rest).2 := by
  unfold cut
  split
  next hblank => exact .blank ((isBlank_iff c).mp hblank)
  split
  next =>
    unfold cutSlash
    split
    next later =>
      refine .comment (fun hmem => ?_) (fun d hd => ?_)
      · simpa using List.mem_takeWhile_imp hmem
      · simpa using stop_dropWhile _ later d hd
    next hslash =>
      refine .loneSlash (fun hhead => ?_)
      obtain ⟨later, hlater⟩ := List.head?_eq_some_iff.mp hhead
      exact hslash later hlater
  split
  next =>
    unfold cutQuote
    split
    next hdrop =>
      refine .openString (fun hmem => ?_)
      simpa using List.dropWhile_eq_nil_iff.mp hdrop _ hmem
    next =>
      refine .string (fun hmem => ?_)
      simpa using List.mem_takeWhile_imp hmem
  next hblank hslash hquote =>
  split
  next kind hkind => exact .bracket ((bracket?_eq_some_iff c kind).mp hkind)
  next hbracket =>
  split
  next hletter =>
    refine .word hletter (fun d hd => ?_) (fun d hd => ?_)
    · exact (isWordChar_iff d).mp (List.mem_takeWhile_imp hd)
    · simpa [← isWordChar_iff] using stop_dropWhile _ rest d hd
  next hletter =>
    refine .rune ?_ hslash hquote ((bracket?_eq_none_iff c).mp hbracket) hletter
    exact fun hmem => hblank ((isBlank_iff c).mpr hmem)

/-- The class of a segment and the text behind it decide where it ends. -/
theorem Segment.Fits.cut_eq
    {segment : Segment} {rest tail : List Char} {c : Char}
    (hfits : segment.Fits rest) (htext : segment.text = c :: tail) :
    cut c (tail ++ rest) = (segment, rest) := by
  cases hfits with
  | blank hmem =>
      obtain ⟨rfl, rfl⟩ : _ = c ∧ [] = tail := by simpa [text] using htext
      simp [cut, (isBlank_iff _).mpr hmem]
  | @comment body _ hbody hstop =>
      obtain ⟨rfl, rfl⟩ : '/' = c ∧ '/' :: body = tail := by
        simpa [text] using htext
      obtain ⟨htake, hdrop⟩ := span_of_stop (· ≠ '\n') body rest
        (fun d hd => by simpa using ne_of_mem_of_not_mem hd hbody)
        (fun d hd => by simpa using hstop d hd)
      rw [cut_slash, List.cons_append, cutSlash, htake, hdrop]
  | @bracket kind c' _ hmem =>
      obtain ⟨rfl, rfl⟩ : c' = c ∧ [] = tail := by simpa [text] using htext
      obtain ⟨hblank, hslash, hquote⟩ := outer_of_mem_brackets _ hmem
      have hkind := (bracket?_eq_some_iff c' kind).mpr hmem
      simp [cut, hblank, hslash, hquote, hkind]
  | @string body _ hbody =>
      obtain ⟨rfl, rfl⟩ : '"' = c ∧ body ++ ['"'] = tail := by
        simpa [text] using htext
      obtain ⟨htake, hdrop⟩ := span_of_stop (· ≠ '"') body ('"' :: rest)
        (fun d hd => by simpa using ne_of_mem_of_not_mem hd hbody)
        (fun d hd => by cases hd; rfl)
      simp only [cut_quote, cutQuote, List.append_assoc, List.singleton_append,
        htake, hdrop]
  | @word c' letters _ hletter hletters hstop =>
      obtain ⟨rfl, rfl⟩ : c' = c ∧ letters = tail := by simpa [text] using htext
      obtain ⟨htake, hdrop⟩ := span_of_stop isWordChar letters rest
        (fun d hd => (isWordChar_iff d).mpr (hletters d hd))
        (fun d hd => by simpa [← isWordChar_iff] using hstop d hd)
      have hfree : c' ∉ '/' :: '"' :: (blanks ++ brackets.map Prod.fst) := by
        intro hmem
        simp [isLetter_eq_false_of_reserved hmem] at hletter
      obtain ⟨hslash, hquote, hblank, hbracket⟩ :
          c' ≠ '/' ∧ c' ≠ '"' ∧ c' ∉ blanks ∧ c' ∉ brackets.map Prod.fst := by
        simpa only [List.mem_cons, List.mem_append, not_or] using hfree
      have hnone := (bracket?_eq_none_iff c').mpr hbracket
      simp [cut, isBlank_iff, hslash, hquote, hblank, hnone, hletter, htake,
        hdrop]
  | loneSlash hstop =>
      obtain ⟨rfl, rfl⟩ : '/' = c ∧ [] = tail := by simpa [text] using htext
      cases rest with
      | nil => rfl
      | cons d rest =>
          have hd : d ≠ '/' := by simpa using hstop
          simp [cut_slash, cutSlash, hd]
  | @openString body hbody =>
      obtain ⟨rfl, rfl⟩ : '"' = c ∧ body = tail := by simpa [text] using htext
      have hdrop : body.dropWhile (· ≠ '"') = [] := by
        rw [List.dropWhile_eq_nil_iff]
        exact fun d hd => by simpa using ne_of_mem_of_not_mem hd hbody
      simp only [cut_quote, cutQuote, List.append_nil, hdrop]
  | @rune c' _ hblank hslash hquote hbracket hletter =>
      obtain ⟨rfl, rfl⟩ : c' = c ∧ [] = tail := by simpa [text] using htext
      have hnone := (bracket?_eq_none_iff c').mpr hbracket
      simp [cut, isBlank_iff, hblank, hslash, hquote, hnone, hletter]

/-! ## The whole text -/

theorem segments_cons (c : Char) (rest : List Char) :
    segments (c :: rest) =
      (Segment.cut c rest).1 :: segments (Segment.cut c rest).2 := by
  rw [segments]

theorem partition_segments (text : List Char) :
    Partition text (segments text) := by
  induction text using segments.induct with
  | case1 =>
      rw [segments]
      exact .nil
  | case2 c rest ih =>
      have hcons := Partition.cons (Segment.fits_cut c rest) ih
      rwa [Segment.text_cut, ← segments_cons] at hcons

theorem Segment.Fits.text_ne_nil
    {segment : Segment} {rest : List Char} (hfits : segment.Fits rest) :
    segment.text ≠ [] := by
  cases hfits <;> simp [text]

theorem Partition.eq_segments
    {text : List Char} {found : List Segment}
    (hpartition : Partition text found) :
    found = segments text := by
  induction hpartition with
  | nil =>
      rw [segments]
  | @cons segment rest later hfits _ ih =>
      obtain ⟨c, tail, htext⟩ := List.exists_cons_of_ne_nil hfits.text_ne_nil
      rw [htext, List.cons_append, segments_cons, hfits.cut_eq htext, ih]

theorem partition_iff (text : List Char) (found : List Segment) :
    Partition text found ↔ found = segments text := by
  constructor
  · exact Partition.eq_segments
  · rintro rfl
    exact partition_segments text

end Statecharts.Description
