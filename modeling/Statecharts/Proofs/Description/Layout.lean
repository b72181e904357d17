import Statecharts.Proofs.Description.Reading

/-!
# The layout of tokens

The tokens of a text, faulty or not, can be written out again: a bracket as
itself, a word as its lexeme, a string between its quotes.  What was one
segment stays one in front of anything that does not continue a word, and
nothing that may stand between two tokens does.  However the tokens are set
apart, they are all that is scanned; and only tokens that segments of the
language make can be written so.
-/

namespace Statecharts.Description

/-- Blanks and comments, every comment with the line feed that ends it. -/
inductive Trivia : List Char → Prop
  | nil : Trivia []
  | blank {c : Char} {rest : List Char} :
      c ∈ blanks → Trivia rest → Trivia (c :: rest)
  | comment {body rest : List Char} :
      '\n' ∉ body → Trivia rest →
      Trivia ('/' :: '/' :: body ++ '\n' :: rest)

/-- What sets two tokens apart. -/
structure Gap where
  text : List Char
  trivia : Trivia text
  ne_nil : text ≠ []

def Token.source (token : Token) : List Char :=
  match token.kind with
  | .leftParen => ['(']
  | .rightParen => [')']
  | .leftBrace => ['{']
  | .rightBrace => ['}']
  | .leftBracket => ['[']
  | .rightBracket => [']']
  | .stringLiteral => '"' :: token.lexeme.toList ++ ['"']
  | .eof => []
  | _ => token.lexeme.toList

/-- What a token is, wherever it stands. -/
def Token.content (token : Token) : TokenKind × String :=
  (token.kind, token.lexeme)

/-- A token that a segment of the language makes. -/
def Token.WellFormed (token : Token) : Prop :=
  ∃ segment : Segment,
    segment.Fits [] ∧ segment.Denotes token.kind token.lexeme

/-- A text in which all tokens are found that are given, and nothing else. -/
structure ScansTo (text : List Char) (tokens : List Token) : Prop where
  errors : (scan (String.ofList text)).errors = []
  contents : (scan (String.ofList text)).tokens.map Token.content =
    tokens.map Token.content ++ [(.eof, "")]

/-- Tokens in a row; the one at an index is followed by the gap of the index,
if it is not the last. -/
def layout (gap : Nat → Gap) : List Token → List Char
  | [] => []
  | [token] => token.source
  | token :: next :: rest =>
    token.source ++ ((gap 0).text ++
      layout (fun index => gap (index + 1)) (next :: rest))

/-! ## Scans apart from positions -/

theorem Scanned.content_ofSegments (position : Position)
    (segments : List Segment) :
    (ofSegments position segments).tokens.map Token.content =
      segments.filterMap Segment.token? ++ [(.eof, "")] := by
  induction segments generalizing position with
  | nil => rfl
  | cons segment rest ih =>
      rw [ofSegments, List.map_append, ih, List.filterMap_cons]
      cases segment.token? <;> rfl

theorem Scanned.faults_ofSegments (position : Position)
    (segments : List Segment) :
    (ofSegments position segments).errors.map LexicalError.fault =
      segments.filterMap Segment.fault? := by
  induction segments generalizing position with
  | nil => rfl
  | cons segment rest ih =>
      rw [ofSegments, List.map_append, ih, List.filterMap_cons]
      cases segment.fault? <;> rfl

theorem scansTo_iff {text : List Char} {segments : List Segment}
    (hpartition : Partition text segments) (tokens : List Token) :
    ScansTo text tokens ↔
      segments.filterMap Segment.token? = tokens.map Token.content ∧
        segments.filterMap Segment.fault? = [] := by
  have hscan : scan (String.ofList text) = .ofSegments .start segments := by
    rw [scan, String.toList_ofList, hpartition.eq_segments]
  have herrors : (scan (String.ofList text)).errors = [] ↔
      segments.filterMap Segment.fault? = [] := by
    rw [hscan, ← List.map_eq_nil_iff, Scanned.faults_ofSegments]
  have hcontents : (scan (String.ofList text)).tokens.map Token.content =
        tokens.map Token.content ++ [(.eof, "")] ↔
      segments.filterMap Segment.token? = tokens.map Token.content := by
    rw [hscan, Scanned.content_ofSegments, List.append_left_inj]
  constructor
  · intro hscans
    exact ⟨hcontents.mp hscans.contents, herrors.mp hscans.errors⟩
  · intro hsegments
    exact ⟨herrors.mpr hsegments.2, hcontents.mpr hsegments.1⟩

/-! ## Segments that make tokens -/

/-- A segment that makes a token, in front of anything that does not continue
a word. -/
structure Token.Spelled (token : Token) (segment : Segment) : Prop where
  token?_eq : segment.token? = some token.content
  text_eq : segment.text = token.source
  fits : ∀ rest : List Char, (∀ c ∈ rest.head?, ¬ WordChar c) →
    segment.Fits rest

theorem Token.Spelled.fault?_eq {token : Token} {segment : Segment}
    (hspelled : token.Spelled segment) : segment.fault? = none := by
  simpa [hspelled.token?_eq] using segment.token?_eq_none_or

theorem Token.source_of_word {token : Token} {letters : List Char}
    (hword : (Segment.word letters).Denotes token.kind token.lexeme) :
    token.source = letters := by
  obtain ⟨kind, lexeme, position⟩ := token
  cases hword with
  | keyword hmem =>
      simp only [keywords, List.mem_cons, Prod.mk.injEq, List.not_mem_nil,
        or_false] at hmem
      rcases hmem with ⟨-, rfl⟩ | ⟨-, rfl⟩ | ⟨-, rfl⟩ | ⟨-, rfl⟩ <;>
        exact String.toList_ofList
  | identifier => exact String.toList_ofList

theorem Token.source_of_bracket {token : Token} {c : Char}
    (hmem : (c, token.kind) ∈ brackets) : token.source = [c] := by
  obtain ⟨kind, lexeme, position⟩ := token
  simp only [brackets, List.mem_cons, Prod.mk.injEq, List.not_mem_nil,
    or_false] at hmem
  rcases hmem with ⟨rfl, rfl⟩ | ⟨rfl, rfl⟩ | ⟨rfl, rfl⟩ | ⟨rfl, rfl⟩ |
    ⟨rfl, rfl⟩ | ⟨rfl, rfl⟩ <;> rfl

theorem Segment.Fits.spelled {segment : Segment} {rest : List Char}
    {token : Token} (hfits : segment.Fits rest)
    (htoken : segment.token? = some token.content) : token.Spelled segment := by
  have hdenotes := (segment.denotes_iff token.kind token.lexeme).mpr htoken
  cases hfits with
  | @bracket kind c _ hmem =>
      obtain ⟨rfl, -⟩ : kind = token.kind ∧ "" = token.lexeme := by
        simpa [Segment.token?, Token.content] using htoken
      exact ⟨htoken, (Token.source_of_bracket hmem).symm,
        fun rest _ => .bracket hmem⟩
  | @string body _ hbody =>
      obtain ⟨hkind, hlexeme⟩ :
          TokenKind.stringLiteral = token.kind ∧
            String.ofList body = token.lexeme := by
        simpa [Segment.token?, Token.content] using htoken
      refine ⟨htoken, ?_, fun rest _ => .string hbody⟩
      simp [Token.source, ← hkind, ← hlexeme, Segment.text]
  | word hletter hletters _ =>
      exact ⟨htoken, (Token.source_of_word hdenotes).symm,
        fun rest hstop => .word hletter hletters hstop⟩
  | blank => cases hdenotes
  | comment => cases hdenotes
  | loneSlash => cases hdenotes
  | openString => cases hdenotes
  | rune => cases hdenotes

theorem Token.wellFormed_iff (token : Token) :
    token.WellFormed ↔ ∃ segment, token.Spelled segment := by
  constructor
  · intro hformed
    obtain ⟨segment, hfits, hdenotes⟩ := hformed
    exact ⟨segment, hfits.spelled ((segment.denotes_iff _ _).mp hdenotes)⟩
  · intro hspelled
    obtain ⟨segment, hsegment⟩ := hspelled
    exact ⟨segment, hsegment.fits [] (by simp),
      (segment.denotes_iff _ _).mpr hsegment.token?_eq⟩

/-- Every token of a partition is well formed, whatever is wrong elsewhere in
the text. -/
theorem Partition.wellFormed {text : List Char} {segments : List Segment}
    (hpartition : Partition text segments) {token : Token}
    (htoken : token.content ∈ segments.filterMap Segment.token?) :
    token.WellFormed := by
  induction hpartition with
  | nil => cases htoken
  | @cons segment rest segments hfits _ ih =>
      rw [← List.singleton_append, List.filterMap_append, List.mem_append] at htoken
      cases htoken with
      | inl hfirst =>
          rw [token.wellFormed_iff]
          exact ⟨segment, hfits.spelled (by simpa using hfirst)⟩
      | inr hlater => exact ih hlater

/-! ## Gaps -/

theorem Trivia.exists_partition {text rest : List Char} {segments : List Segment}
    (htrivia : Trivia text) (hrest : Partition rest segments) :
    ∃ silent, (∀ segment ∈ silent, Segment.Silent segment) ∧
      Partition (text ++ rest) (silent ++ segments) := by
  induction htrivia with
  | nil => exact ⟨[], by simp, hrest⟩
  | @blank c text hblank _ ih =>
      obtain ⟨silent, hsilent, hpartition⟩ := ih
      refine ⟨.blank c :: silent, ?_, .cons (.blank hblank) hpartition⟩
      exact List.forall_mem_cons.mpr ⟨.blank, hsilent⟩
  | @comment body text hbody _ ih =>
      obtain ⟨silent, hsilent, hpartition⟩ := ih
      have hline : Partition ('\n' :: (text ++ rest))
          (.blank '\n' :: (silent ++ segments)) :=
        .cons (.blank (by decide)) hpartition
      have hcomment := Partition.cons
        (Segment.Fits.comment hbody (by simp)) hline
      refine ⟨.comment body :: .blank '\n' :: silent, ?_, ?_⟩
      · simpa using ⟨Segment.Silent.comment, Segment.Silent.blank, hsilent⟩
      · simpa [Segment.text] using hcomment

theorem not_wordChar_of_blank {c : Char} (hmem : c ∈ '/' :: blanks) :
    ¬ WordChar c := by
  have hall : ('/' :: blanks).all (!isWordChar ·) = true := by
    decide
  rw [← isWordChar_iff]
  simpa using List.all_eq_true.mp hall c hmem

theorem Gap.head_not_wordChar (gap : Gap) (rest : List Char) :
    ∀ c ∈ (gap.text ++ rest).head?, ¬ WordChar c := by
  obtain ⟨text, htrivia, hne⟩ := gap
  cases htrivia with
  | nil => exact absurd rfl hne
  | @blank c text hblank _ =>
      intro d hd
      obtain rfl : c = d := by simpa using hd
      exact not_wordChar_of_blank (List.mem_cons_of_mem _ hblank)
  | comment =>
      intro d hd
      obtain rfl : '/' = d := by simpa using hd
      exact not_wordChar_of_blank List.mem_cons_self

/-! ## The layout -/

theorem filterMap_silent {silent : List Segment}
    (hsilent : ∀ segment ∈ silent, segment.Silent) :
    silent.filterMap Segment.token? = [] ∧
      silent.filterMap Segment.fault? = [] := by
  rw [List.filterMap_eq_nil_iff, List.filterMap_eq_nil_iff]
  exact ⟨fun segment hmem => (segment.silent_iff.mp (hsilent segment hmem)).1,
    fun segment hmem => (segment.silent_iff.mp (hsilent segment hmem)).2⟩

theorem exists_partition_layout (gap : Nat → Gap) {tokens : List Token}
    (hformed : ∀ token ∈ tokens, token.WellFormed) :
    ∃ segments, Partition (layout gap tokens) segments ∧
      segments.filterMap Segment.token? = tokens.map Token.content ∧
      segments.filterMap Segment.fault? = [] := by
  induction gap, tokens using layout.induct with
  | case1 gap => exact ⟨[], .nil, rfl, rfl⟩
  | case2 gap token =>
      obtain ⟨segment, hsegment⟩ :=
        token.wellFormed_iff.mp (hformed token List.mem_cons_self)
      have hpartition := Partition.cons (hsegment.fits [] (by simp)) .nil
      rw [List.append_nil, hsegment.text_eq] at hpartition
      refine ⟨[segment], hpartition, ?_, ?_⟩
      · simp [hsegment.token?_eq]
      · simp [hsegment.fault?_eq]
  | case3 gap token next rest ih =>
      obtain ⟨segment, hsegment⟩ :=
        token.wellFormed_iff.mp (hformed token List.mem_cons_self)
      obtain ⟨segments, hsegments, htokens, hfaults⟩ :=
        ih fun later hlater => hformed later (List.mem_cons_of_mem _ hlater)
      obtain ⟨silent, hsilent, hbehind⟩ :=
        (gap 0).trivia.exists_partition hsegments
      obtain ⟨hnoToken, hnoFault⟩ := filterMap_silent hsilent
      have hpartition := Partition.cons
        (hsegment.fits _ ((gap 0).head_not_wordChar _)) hbehind
      rw [hsegment.text_eq] at hpartition
      refine ⟨segment :: (silent ++ segments), hpartition, ?_, ?_⟩
      · rw [List.filterMap_cons, hsegment.token?_eq, List.filterMap_append,
          hnoToken, htokens]
        rfl
      · rw [List.filterMap_cons, hsegment.fault?_eq, List.filterMap_append,
          hnoFault, hfaults]
        rfl

theorem scansTo_layout_iff (gap : Nat → Gap) (tokens : List Token) :
    ScansTo (layout gap tokens) tokens ↔
      ∀ token ∈ tokens, token.WellFormed := by
  constructor
  · intro hscans token htoken
    have hpartition := partition_segments (layout gap tokens)
    have hcontents := ((scansTo_iff hpartition tokens).mp hscans).1
    apply hpartition.wellFormed
    rw [hcontents]
    exact List.mem_map_of_mem htoken
  · intro hformed
    obtain ⟨segments, hpartition, hsegments⟩ :=
      exists_partition_layout gap hformed
    exact (scansTo_iff hpartition tokens).mpr hsegments

theorem wellFormed_of_scan {text : String} {token : Token}
    (htoken : token ∈ (scan text).tokens) (hkind : token.kind ≠ .eof) :
    token.WellFormed := by
  have hcontent : token.content ∈ (scan text).tokens.map Token.content :=
    List.mem_map_of_mem htoken
  rw [scan, Scanned.content_ofSegments, List.mem_append, List.mem_singleton]
    at hcontent
  cases hcontent with
  | inl hsegments =>
      exact (partition_segments text.toList).wellFormed hsegments
  | inr heof => exact absurd (congrArg Prod.fst heof) hkind

/-- Tokens are scanned back from any layout of them exactly if they are well
formed, and the tokens of any text are. -/
theorem scan_layout :
    (∀ (gap : Nat → Gap) (tokens : List Token),
      ScansTo (layout gap tokens) tokens ↔
        ∀ token ∈ tokens, token.WellFormed) ∧
    ∀ text : String, ∃ tokens,
      (scan text).tokens = tokens ++ [⟨.eof, "", .behind text.toList⟩] ∧
      (∀ token ∈ tokens, token.kind ≠ .eof) ∧
      ∀ gap : Nat → Gap, ScansTo (layout gap tokens) tokens := by
  refine ⟨scansTo_layout_iff, fun text => ?_⟩
  obtain ⟨tokens, htokens, hkinds⟩ :=
    (partition_segments text.toList).ends_in_eof (reading_ofSegments [] _)
  have hformed : ∀ token ∈ tokens, token.WellFormed := by
    intro token htoken
    have hscanned : token ∈ (scan text).tokens :=
      htokens ▸ List.mem_append_left _ htoken
    exact wellFormed_of_scan hscanned (hkinds token htoken)
  exact ⟨tokens, htokens, hkinds,
    fun gap => (scansTo_layout_iff gap tokens).mpr hformed⟩

end Statecharts.Description
