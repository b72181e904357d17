import Mathlib.Tactic
import Statecharts.Description.Scan
import Statecharts.Proofs.Description.Partition

/-!
# What a scan says of a text

A scan reads one token off every bracket, string and word of the partition and
one error off every lone slash, open string and foreign character.  Positions
are told here by the text in front alone: its line feeds give the line, what
it has after the last of them gives the column.  The scanner carries them from
one segment to the next instead.
-/

namespace Statecharts.Description

def keywords : List (String × TokenKind) :=
  [("statechart", .statechart), ("state", .state),
    ("transition", .transition), ("trigger", .trigger)]

inductive Segment.Denotes : Segment → TokenKind → String → Prop
  | bracket {kind : TokenKind} {c : Char} :
      Denotes (.bracket kind c) kind ""
  | string {body : List Char} :
      Denotes (.string body) .stringLiteral (String.ofList body)
  | keyword {letters : List Char} {kind : TokenKind} :
      (String.ofList letters, kind) ∈ keywords →
      Denotes (.word letters) kind (String.ofList letters)
  | identifier {letters : List Char} :
      String.ofList letters ∉ keywords.map Prod.fst →
      Denotes (.word letters) .identifier (String.ofList letters)

inductive Segment.Offends : Segment → LexicalFault → Prop
  | loneSlash : Offends .loneSlash .singleSlash
  | openString {body : List Char} :
      Offends (.openString body) .unterminatedString
  | rune {c : Char} : Offends (.rune c) (.unsupportedRune c)

inductive Segment.Silent : Segment → Prop
  | blank {c : Char} : Silent (.blank c)
  | comment {body : List Char} : Silent (.comment body)

/-- The position of the character behind a text. -/
def Position.behind (before : List Char) : Position :=
  ⟨.ofNat (1 + before.count '\n'),
    .ofNat (1 + (before.reverse.takeWhile (· ≠ '\n')).length)⟩

def Scanned.positions (scanned : Scanned) : List Position :=
  scanned.tokens.map Token.position ++
    scanned.errors.map LexicalError.position

/-- What segments say that stand behind a given text. -/
inductive Reading : List Char → List Segment → Scanned → Prop
  | done {before : List Char} :
      Reading before [] ⟨[⟨.eof, "", .behind before⟩], []⟩
  | token {before : List Char} {segment : Segment} {rest : List Segment}
      {kind : TokenKind} {lexeme : String} {later : Scanned} :
      segment.Denotes kind lexeme →
      Reading (before ++ segment.text) rest later →
      Reading before (segment :: rest)
        ⟨⟨kind, lexeme, .behind before⟩ :: later.tokens, later.errors⟩
  | error {before : List Char} {segment : Segment} {rest : List Segment}
      {fault : LexicalFault} {later : Scanned} :
      segment.Offends fault →
      Reading (before ++ segment.text) rest later →
      Reading before (segment :: rest)
        ⟨later.tokens, ⟨fault, .behind before⟩ :: later.errors⟩
  | silent {before : List Char} {segment : Segment} {rest : List Segment}
      {later : Scanned} :
      segment.Silent → Reading (before ++ segment.text) rest later →
      Reading before (segment :: rest) later

/-! ## Positions -/

theorem Position.behind_append_singleton (before : List Char) (c : Char) :
    behind (before ++ [c]) = (behind before).next c := by
  unfold behind next
  by_cases hfeed : c = '\n'
  · simp [hfeed, ← Nat.add_assoc, UInt32.ofNat_add]
  · simp [hfeed, ← Nat.add_assoc, UInt32.ofNat_add]

theorem Position.behind_append (before text : List Char) :
    behind (before ++ text) = (behind before).after text := by
  induction text generalizing before with
  | nil =>
      simp [after]
  | cons c text ih =>
      calc behind (before ++ c :: text)
          = behind (before ++ [c] ++ text) := by simp
        _ = (behind (before ++ [c])).after text := ih _
        _ = (behind before).after (c :: text) := by
            rw [behind_append_singleton]
            rfl

/-- Behind a text that is short enough no counter has wrapped around. -/
theorem Position.behind_exact (before : List Char)
    (hbefore : before.length < 2 ^ 32 - 1) :
    (behind before).line = 1 + before.count '\n' ∧
      (behind before).column =
        1 + (before.reverse.takeWhile (· ≠ '\n')).length := by
  have hcount := List.count_le_length (a := '\n') (l := before)
  have htake :=
    (before.reverse.takeWhile_sublist (· ≠ '\n')).length_le
  rw [List.length_reverse] at htake
  unfold behind line column
  constructor
  · exact UInt32.toNat_ofNat_of_lt' (by rw [UInt32.size]; omega)
  · exact UInt32.toNat_ofNat_of_lt' (by rw [UInt32.size]; omega)

/-! ## One segment -/

theorem keyword?_eq_some_iff (word : String) (kind : TokenKind) :
    keyword? word = some kind ↔ (word, kind) ∈ keywords := by
  unfold keyword? keywords
  split
  next hword => subst word; simp [eq_comm]
  split
  next hword => subst word; simp [eq_comm]
  split
  next hword => subst word; simp [eq_comm]
  split
  next hword => subst word; simp [eq_comm]
  next => simp_all

theorem keyword?_eq_none_iff (word : String) :
    keyword? word = none ↔ word ∉ keywords.map Prod.fst := by
  simp [← keyword?_eq_some_iff, Option.eq_none_iff_forall_ne_some]

theorem Segment.denotes_iff
    (segment : Segment) (kind : TokenKind) (lexeme : String) :
    segment.Denotes kind lexeme ↔ segment.token? = some (kind, lexeme) := by
  constructor
  · intro hdenotes
    cases hdenotes with
    | bracket => rfl
    | string => rfl
    | keyword hmem =>
        simp [token?, (keyword?_eq_some_iff _ _).mpr hmem]
    | @identifier letters hnone =>
        simp [token?, (keyword?_eq_none_iff _).mpr hnone]
  · intro htoken
    cases segment with
    | bracket kind c =>
        obtain ⟨rfl, rfl⟩ : _ ∧ _ := by simpa [token?] using htoken
        exact .bracket
    | string body =>
        obtain ⟨rfl, rfl⟩ : _ ∧ _ := by simpa [token?] using htoken
        exact .string
    | word letters =>
        obtain ⟨hkind, rfl⟩ : _ ∧ _ := by simpa [token?] using htoken
        cases hlook : keyword? (String.ofList letters) with
        | none =>
            obtain rfl : TokenKind.identifier = kind := by
              simpa [hlook] using hkind
            exact .identifier ((keyword?_eq_none_iff _).mp hlook)
        | some found =>
            obtain rfl : found = kind := by simpa [hlook] using hkind
            exact .keyword ((keyword?_eq_some_iff _ _).mp hlook)
    | _ => simp [token?] at htoken

theorem Segment.offends_iff (segment : Segment) (fault : LexicalFault) :
    segment.Offends fault ↔ segment.fault? = some fault := by
  constructor
  · intro hoffends
    cases hoffends <;> rfl
  · intro hfault
    cases segment with
    | loneSlash => cases hfault; exact .loneSlash
    | openString body => cases hfault; exact .openString
    | rune c => cases hfault; exact .rune
    | _ => simp [fault?] at hfault

theorem Segment.silent_iff (segment : Segment) :
    segment.Silent ↔ segment.token? = none ∧ segment.fault? = none := by
  constructor
  · intro hsilent
    cases hsilent <;> exact ⟨rfl, rfl⟩
  · rintro ⟨htoken, hfault⟩
    cases segment with
    | blank c => exact .blank
    | comment body => exact .comment
    | bracket => simp [token?] at htoken
    | string => simp [token?] at htoken
    | word => simp [token?] at htoken
    | loneSlash => simp [fault?] at hfault
    | openString => simp [fault?] at hfault
    | rune => simp [fault?] at hfault

/-- No segment is both a token and an error. -/
theorem Segment.token?_eq_none_or (segment : Segment) :
    segment.token? = none ∨ segment.fault? = none := by
  cases segment <;> simp [token?, fault?]

/-! ## A run over the segments -/

theorem Scanned.ofSegments_cons
    (before : List Char) (segment : Segment) (rest : List Segment) :
    ofSegments (.behind before) (segment :: rest) =
      let later := ofSegments (.behind (before ++ segment.text)) rest
      ⟨(segment.token?.map
            fun (kind, lexeme) => ⟨kind, lexeme, .behind before⟩).toList ++
          later.tokens,
        (segment.fault?.map fun fault => ⟨fault, .behind before⟩).toList ++
          later.errors⟩ := by
  rw [Position.behind_append]
  rfl

theorem reading_ofSegments (before : List Char) (segments : List Segment) :
    Reading before segments (.ofSegments (.behind before) segments) := by
  induction segments generalizing before with
  | nil =>
      exact .done
  | cons segment rest ih =>
      have hrest := ih (before ++ segment.text)
      rw [Scanned.ofSegments_cons]
      cases htoken : segment.token? with
      | some token =>
          have hfault : segment.fault? = none := by
            simpa [htoken] using segment.token?_eq_none_or
          rw [hfault]
          exact .token ((segment.denotes_iff token.1 token.2).mpr htoken) hrest
      | none =>
          cases hfault : segment.fault? with
          | some fault =>
              exact .error ((segment.offends_iff fault).mpr hfault) hrest
          | none =>
              exact .silent (segment.silent_iff.mpr ⟨htoken, hfault⟩) hrest

theorem Reading.eq_ofSegments
    {before : List Char} {segments : List Segment} {scanned : Scanned}
    (hreading : Reading before segments scanned) :
    scanned = .ofSegments (.behind before) segments := by
  induction hreading with
  | done =>
      rfl
  | @token before segment rest kind lexeme later hdenotes _ ih =>
      have htoken := (segment.denotes_iff kind lexeme).mp hdenotes
      have hfault : segment.fault? = none := by
        simpa [htoken] using segment.token?_eq_none_or
      simp [Scanned.ofSegments_cons, htoken, hfault, ih]
  | @error before segment rest fault later hoffends _ ih =>
      have hfault := (segment.offends_iff fault).mp hoffends
      have htoken : segment.token? = none := by
        simpa [hfault] using segment.token?_eq_none_or
      simp [Scanned.ofSegments_cons, htoken, hfault, ih]
  | @silent before segment rest later hsilent _ ih =>
      obtain ⟨htoken, hfault⟩ := segment.silent_iff.mp hsilent
      simp [Scanned.ofSegments_cons, htoken, hfault, ih]

theorem reading_iff
    (before : List Char) (segments : List Segment) (scanned : Scanned) :
    Reading before segments scanned ↔
      scanned = .ofSegments (.behind before) segments := by
  constructor
  · exact Reading.eq_ofSegments
  · rintro rfl
    exact reading_ofSegments before segments

/-- Every position is that of the character behind some front of the text. -/
theorem Reading.exists_front
    {before : List Char} {segments : List Segment} {scanned : Scanned}
    (hreading : Reading before segments scanned) :
    ∀ position ∈ scanned.positions, ∃ front,
      front <+: before ++ segments.flatMap Segment.text ∧
        position = .behind front := by
  induction hreading with
  | @done before =>
      intro position hposition
      refine ⟨before, List.prefix_append _ _, ?_⟩
      simpa [Scanned.positions] using hposition
  | @token before segment rest kind lexeme later _ _ ih =>
      intro position hposition
      obtain hfirst | hlater :
          position = .behind before ∨ position ∈ later.positions := by
        simpa [Scanned.positions] using hposition
      · exact ⟨before, List.prefix_append _ _, hfirst⟩
      · rw [List.flatMap_cons, ← List.append_assoc]
        exact ih position hlater
  | @error before segment rest fault later _ _ ih =>
      intro position hposition
      obtain hfirst | hlater :
          position = .behind before ∨ position ∈ later.positions := by
        simpa [Scanned.positions, or_left_comm] using hposition
      · exact ⟨before, List.prefix_append _ _, hfirst⟩
      · rw [List.flatMap_cons, ← List.append_assoc]
        exact ih position hlater
  | @silent before segment rest later _ _ ih =>
      rwa [List.flatMap_cons, ← List.append_assoc]

theorem Segment.Fits.denotes_ne_eof
    {segment : Segment} {rest : List Char} {kind : TokenKind}
    {lexeme : String} (hfits : segment.Fits rest)
    (hdenotes : segment.Denotes kind lexeme) :
    kind ≠ .eof := by
  cases hdenotes with
  | bracket =>
      cases hfits with
      | bracket hmem =>
          rintro rfl
          simp [brackets] at hmem
  | string => decide
  | keyword hmem =>
      rintro rfl
      simp [keywords] at hmem
  | identifier => decide

/-- The token stream of a partition ends in its only end of input. -/
theorem Partition.ends_in_eof
    {text before : List Char} {segments : List Segment} {scanned : Scanned}
    (hpartition : Partition text segments)
    (hreading : Reading before segments scanned) :
    ∃ front, scanned.tokens =
        front ++ [⟨.eof, "", .behind (before ++ text)⟩] ∧
      ∀ token ∈ front, token.kind ≠ .eof := by
  induction hpartition generalizing before scanned with
  | nil =>
      cases hreading with
      | done => exact ⟨[], by simp, by simp⟩
  | @cons segment rest segments hfits _ ih =>
      rw [← List.append_assoc]
      cases hreading with
      | token hdenotes hlater =>
          obtain ⟨front, htokens, hfront⟩ := ih hlater
          refine ⟨_ :: front, congrArg _ htokens, ?_⟩
          simpa using ⟨hfits.denotes_ne_eof hdenotes, hfront⟩
      | error _ hlater =>
          obtain ⟨front, htokens, hfront⟩ := ih hlater
          exact ⟨front, htokens, hfront⟩
      | silent _ hlater => exact ih hlater

/-! ## The scan of a text -/

theorem scan_reads_the_partition
    (text : String) (htext : text.length < 2 ^ 32 - 1) :
    ∃ segments : List Segment,
      (∀ other, Partition text.toList other ↔ other = segments) ∧
      segments.flatMap Segment.text = text.toList ∧
      (∀ scanned, Reading [] segments scanned ↔ scanned = scan text) ∧
      (∃ front, (scan text).tokens =
          front ++ [⟨.eof, "", .behind text.toList⟩] ∧
        ∀ token ∈ front, token.kind ≠ .eof) ∧
      ∀ front, front <+: text.toList →
        (Position.behind front).line = 1 + front.count '\n' ∧
        (Position.behind front).column =
          1 + (front.reverse.takeWhile (· ≠ '\n')).length := by
  have hpartition := partition_segments text.toList
  have hreading : Reading [] (segments text.toList) (scan text) :=
    reading_ofSegments [] _
  refine ⟨segments text.toList, partition_iff _, hpartition.flatMap_text,
    reading_iff [] _, hpartition.ends_in_eof hreading, ?_⟩
  intro front hfront
  have hlength := hfront.length_le
  rw [String.length_toList] at hlength
  exact Position.behind_exact front (by omega)

theorem faulty_description_reads :
    "a /\n\"b".length < 2 ^ 32 - 1 ∧
      scan "a /\n\"b" =
        ⟨[⟨.identifier, "a", ⟨1, 1⟩⟩, ⟨.eof, "", ⟨2, 3⟩⟩],
          [⟨.singleSlash, ⟨1, 3⟩⟩, ⟨.unterminatedString, ⟨2, 1⟩⟩]⟩ := by
  have hlength : "a /\n\"b".length < 2 ^ 32 - 1 := by decide
  obtain ⟨segments, hunique, -, hreading, -⟩ :=
    scan_reads_the_partition "a /\n\"b" hlength
  have hpartition : Partition _
      [.word ['a'], .blank ' ', .loneSlash, .blank '\n', .openString ['b']] :=
    .cons (.word (by decide) (by simp) (by rintro d ⟨⟩; decide)) <|
      .cons (.blank (by decide)) <| .cons (.loneSlash (by decide)) <|
      .cons (.blank (by decide)) <| .cons (.openString (by decide)) .nil
  have hscan : Reading []
      [.word ['a'], .blank ' ', .loneSlash, .blank '\n', .openString ['b']] _ :=
    .token (.identifier (by decide)) <| .silent .blank <|
      .error .loneSlash <| .silent .blank <| .error .openString .done
  rw [(hunique _).mp hpartition, hreading] at hscan
  exact ⟨hlength, hscan.symm⟩

end Statecharts.Description
