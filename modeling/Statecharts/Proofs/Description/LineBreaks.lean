import Statecharts.Proofs.Description.Reading

/-!
# Line breaks

A quote that is never closed takes in all the text behind it.  Every other
segment that ends with a text also ends there when a line feed and more text
follow: a line feed is no word character, it ends a comment, and it makes no
comment of a slash.  The partition of the whole text is therefore made of the
partitions of its two parts, and what is scanned behind the line feed is what
the second part says alone, further down.  The lines are counted on as far as
the counter goes; in a text that is short enough it never wraps around, and the
lines of the second part are all below those of the first.
-/

namespace Statecharts.Description

/-- Further down by some lines, as far as the counter goes. -/
def Position.down (lines : Nat) (position : Position) : Position :=
  ⟨position.lineCounter + .ofNat lines, position.columnCounter⟩

def Token.down (lines : Nat) (token : Token) : Token :=
  { token with position := token.position.down lines }

def LexicalError.down (lines : Nat) (error : LexicalError) : LexicalError :=
  { error with position := error.position.down lines }

def Scanned.down (lines : Nat) (scanned : Scanned) : Scanned where
  tokens := scanned.tokens.map (Token.down lines)
  errors := scanned.errors.map (LexicalError.down lines)

/-- Two scans in a row; the first of them does not end the text any more. -/
def Scanned.followedBy (scanned later : Scanned) : Scanned where
  tokens := scanned.tokens.dropLast ++ later.tokens
  errors := scanned.errors ++ later.errors

/-! ## The partition of both parts -/

inductive Segment.Unclosed : Segment → Prop
  | openString {body : List Char} : Unclosed (.openString body)

theorem Segment.Fits.append_line
    {segment : Segment} {rest : List Char} (hfits : segment.Fits rest)
    (hclosed : ¬ segment.Unclosed) (later : List Char) :
    segment.Fits (rest ++ '\n' :: later) := by
  have hhead : ∀ c ∈ (rest ++ '\n' :: later).head?, c ∈ rest.head? ∨ c = '\n' := by
    cases rest <;> simp
  cases hfits with
  | blank hblank => exact .blank hblank
  | comment hbody hstop =>
      refine .comment hbody fun c hc => ?_
      rcases hhead c hc with hrest | hfeed
      · exact hstop c hrest
      · exact hfeed
  | bracket hbracket => exact .bracket hbracket
  | string hbody => exact .string hbody
  | word hletter hletters hstop =>
      refine .word hletter hletters fun d hd => ?_
      rcases hhead d hd with hrest | rfl
      · exact hstop d hrest
      · decide
  | loneSlash hstop =>
      refine .loneSlash fun hslash => ?_
      rcases hhead _ hslash with hrest | hfeed
      · exact hstop hrest
      · cases hfeed
  | openString => exact absurd .openString hclosed
  | rune hblank hslash hquote hbracket hletter =>
      exact .rune hblank hslash hquote hbracket hletter

theorem Partition.append_line
    {text later : List Char} {segments others : List Segment}
    (htext : Partition text segments)
    (hclosed : ∀ segment ∈ segments, ¬ segment.Unclosed)
    (hlater : Partition later others) :
    Partition (text ++ '\n' :: later) (segments ++ .blank '\n' :: others) := by
  induction htext with
  | nil =>
      exact .cons (.blank (by decide)) hlater
  | cons hfits _ ih =>
      rw [List.forall_mem_cons] at hclosed
      rw [List.append_assoc]
      exact .cons (hfits.append_line hclosed.1 later) (ih hclosed.2)

/-! ## The reading of both parts -/

theorem Reading.tokens_ne_nil
    {before : List Char} {segments : List Segment} {scanned : Scanned}
    (hreading : Reading before segments scanned) : scanned.tokens ≠ [] := by
  induction hreading with
  | done => simp
  | token => simp
  | error _ _ ih => exact ih
  | silent _ _ ih => exact ih

theorem Reading.exists_unterminated
    {before : List Char} {segments : List Segment} {scanned : Scanned}
    (hreading : Reading before segments scanned)
    (hunclosed : ∃ segment ∈ segments, segment.Unclosed) :
    ∃ error ∈ scanned.errors, error.fault = .unterminatedString := by
  induction hreading with
  | done =>
      obtain ⟨segment, hmem, -⟩ := hunclosed
      cases hmem
  | token hdenotes _ ih =>
      obtain ⟨other, hmem, hopen⟩ := hunclosed
      rcases List.mem_cons.mp hmem with rfl | hlater
      · cases hopen
        cases hdenotes
      · exact ih ⟨other, hlater, hopen⟩
  | error hoffends _ ih =>
      obtain ⟨other, hmem, hopen⟩ := hunclosed
      rcases List.mem_cons.mp hmem with rfl | hlater
      · cases hopen
        cases hoffends
        exact ⟨_, List.mem_cons_self, rfl⟩
      · obtain ⟨error, herror, hfault⟩ := ih ⟨other, hlater, hopen⟩
        exact ⟨error, List.mem_cons_of_mem _ herror, hfault⟩
  | silent hsilent _ ih =>
      obtain ⟨other, hmem, hopen⟩ := hunclosed
      rcases List.mem_cons.mp hmem with rfl | hlater
      · cases hopen
        cases hsilent
      · exact ih ⟨other, hlater, hopen⟩

theorem Reading.append
    {before : List Char} {segments others : List Segment}
    {scanned later : Scanned} (hreading : Reading before segments scanned)
    (hlater : Reading (before ++ segments.flatMap Segment.text) others later) :
    Reading before (segments ++ others) (scanned.followedBy later) := by
  induction hreading with
  | done =>
      rwa [List.flatMap_nil, List.append_nil] at hlater
  | token hdenotes hrest ih =>
      rw [List.flatMap_cons, ← List.append_assoc] at hlater
      have htoken := Reading.token hdenotes (ih hlater)
      unfold Scanned.followedBy
      rwa [List.dropLast_cons_of_ne_nil hrest.tokens_ne_nil]
  | error hoffends _ ih =>
      rw [List.flatMap_cons, ← List.append_assoc] at hlater
      exact .error hoffends (ih hlater)
  | silent hsilent _ ih =>
      rw [List.flatMap_cons, ← List.append_assoc] at hlater
      exact .silent hsilent (ih hlater)

/-! ## Further down -/

theorem Position.next_down (lines : Nat) (position : Position) (c : Char) :
    (position.down lines).next c = (position.next c).down lines := by
  unfold next down
  split
  next => rw [UInt32.add_assoc, UInt32.add_comm (.ofNat lines), ← UInt32.add_assoc]
  next => rfl

theorem Position.after_down
    (lines : Nat) (position : Position) (text : List Char) :
    (position.down lines).after text = (position.after text).down lines := by
  unfold after
  induction text generalizing position with
  | nil => rfl
  | cons c text ih => rw [List.foldl_cons, next_down, ih, List.foldl_cons]

theorem Scanned.ofSegments_down
    (lines : Nat) (position : Position) (segments : List Segment) :
    ofSegments (position.down lines) segments =
      (ofSegments position segments).down lines := by
  induction segments generalizing position with
  | nil => rfl
  | cons segment rest ih =>
      rw [ofSegments, Position.after_down, ih, ofSegments]
      cases segment.token? <;> cases segment.fault? <;> rfl

theorem Position.behind_line (text : List Char) :
    behind (text ++ ['\n']) = start.down (text.count '\n' + 1) := by
  simp [behind, down, start, UInt32.ofNat_add]

theorem Position.line_down {lines : Nat} {position : Position}
    (hlines : position.line + lines < 2 ^ 32) :
    (position.down lines).line = position.line + lines := by
  unfold down line at *
  have hcount : (UInt32.ofNat lines).toNat = lines := by
    apply UInt32.toNat_ofNat_of_lt'
    rw [UInt32.size]
    omega
  rw [UInt32.toNat_add, hcount]
  exact Nat.mod_eq_of_lt hlines

/-! ## The lines of each part -/

theorem Reading.line_of_mem
    {before : List Char} {segments : List Segment} {scanned : Scanned}
    (hreading : Reading before segments scanned)
    (hshort : (before ++ segments.flatMap Segment.text).length < 2 ^ 32 - 1) :
    ∀ position ∈ scanned.positions, 1 ≤ position.line ∧
      position.line ≤
        (before ++ segments.flatMap Segment.text).count '\n' + 1 := by
  intro position hposition
  obtain ⟨front, hfront, rfl⟩ := hreading.exists_front position hposition
  have hlength := hfront.length_le
  have hcount := hfront.sublist.count_le '\n'
  obtain ⟨hline, -⟩ := Position.behind_exact front (by omega)
  rw [hline]
  omega

/-- The lines of a text are counted from one. -/
theorem line_of_scanned {text : String} (hshort : text.length < 2 ^ 32 - 1) :
    ∀ position ∈ (scan text).positions,
      1 ≤ position.line ∧ position.line ≤ text.toList.count '\n' + 1 := by
  have hreading : Reading [] (segments text.toList) (scan text) :=
    reading_ofSegments [] _
  have htext := (partition_segments text.toList).flatMap_text
  have hlines := hreading.line_of_mem
  rw [List.nil_append, htext, String.length_toList] at hlines
  exact hlines hshort

theorem line_down_of_scanned {text later : String}
    (hshort : (text ++ "\n" ++ later).length < 2 ^ 32 - 1) :
    ∀ position ∈ (scan later).positions,
      (position.down (text.toList.count '\n' + 1)).line =
        position.line + (text.toList.count '\n' + 1) := by
  intro position hposition
  have hfeed : "\n".length = 1 := rfl
  rw [String.length_append, String.length_append, hfeed] at hshort
  have hline := (line_of_scanned (by omega) position hposition).2
  have htext := List.count_le_length (a := '\n') (l := text.toList)
  have hlater := List.count_le_length (a := '\n') (l := later.toList)
  rw [String.length_toList] at htext hlater
  apply Position.line_down
  omega

/-- Of two lists, one above a line and one below it. -/
theorem filter_below {α : Type} {line : α → Nat} {bound : Nat}
    {above below : List α} (habove : ∀ item ∈ above, line item ≤ bound)
    (hbelow : ∀ item ∈ below, bound < line item) :
    (above ++ below).filter (bound < line ·) = below := by
  rw [List.filter_append, List.filter_eq_nil_iff.mpr, List.nil_append,
    List.filter_eq_self]
  · simpa using hbelow
  · simpa using habove

theorem Scanned.positions_down (lines : Nat) (scanned : Scanned) :
    (scanned.down lines).positions =
      scanned.positions.map (Position.down lines) := by
  simp only [positions, down, List.map_append, List.map_map]
  rfl

theorem Scanned.filter_followedBy {scanned later : Scanned} {lines : Nat}
    (habove : ∀ position ∈ scanned.positions, position.line ≤ lines)
    (hbelow : ∀ position ∈ later.positions, lines < position.line) :
    (scanned.followedBy later).tokens.filter (lines < ·.position.line) =
        later.tokens ∧
      (scanned.followedBy later).errors.filter (lines < ·.position.line) =
        later.errors := by
  simp only [positions, List.forall_mem_append, List.forall_mem_map] at habove hbelow
  constructor
  · apply filter_below _ hbelow.1
    intro token htoken
    exact habove.1 token (List.mem_of_mem_dropLast htoken)
  · exact filter_below habove.2 hbelow.2

/-! ## The scan of both parts -/

theorem scan_eq_followedBy (text later : String)
    (hclosed : ∀ error ∈ (scan text).errors,
      error.fault ≠ .unterminatedString) :
    scan (text ++ "\n" ++ later) =
      (scan text).followedBy
        ((scan later).down (text.toList.count '\n' + 1)) := by
  have htext : Reading [] (segments text.toList) (scan text) :=
    reading_ofSegments [] _
  have hpartition := (partition_segments text.toList).append_line
    (fun segment hmem hopen => by
      obtain ⟨error, herror, hfault⟩ :=
        htext.exists_unterminated ⟨segment, hmem, hopen⟩
      exact hclosed error herror hfault)
    (partition_segments later.toList)
  have hlater : Reading text.toList (.blank '\n' :: segments later.toList)
      ((scan later).down (text.toList.count '\n' + 1)) := by
    have hrest := reading_ofSegments (text.toList ++ ['\n'])
      (segments later.toList)
    rw [Position.behind_line, Scanned.ofSegments_down] at hrest
    exact .silent .blank hrest
  have hwhole := htext.append (by
    rwa [List.nil_append, (partition_segments text.toList).flatMap_text])
  rw [hpartition.eq_segments] at hwhole
  rw [hwhole.eq_ofSegments, scan, String.toList_append, String.toList_append,
    List.append_assoc]
  rfl

/-- A text without an open quote and a text behind a line feed are scanned each
for itself.  Whatever is wrong with the first, the lines below it are told by
the second alone. -/
theorem scan_across_line_break (text later : String)
    (hclosed : ∀ error ∈ (scan text).errors,
      error.fault ≠ .unterminatedString) :
    let lines := text.toList.count '\n' + 1
    let whole := scan (text ++ "\n" ++ later)
    (∃ front,
      (scan text).tokens = front ++ [⟨.eof, "", .behind text.toList⟩] ∧
      whole.tokens = front ++ (scan later).tokens.map (Token.down lines)) ∧
    whole.errors =
      (scan text).errors ++ (scan later).errors.map (LexicalError.down lines) ∧
    ((text ++ "\n" ++ later).length < 2 ^ 32 - 1 →
      (∀ position ∈ (scan later).positions,
        (position.down lines).line = position.line + lines) ∧
      whole.tokens.filter (lines < ·.position.line) =
        (scan later).tokens.map (Token.down lines) ∧
      whole.errors.filter (lines < ·.position.line) =
        (scan later).errors.map (LexicalError.down lines)) := by
  intro lines whole
  have hwhole : whole = (scan text).followedBy ((scan later).down lines) :=
    scan_eq_followedBy text later hclosed
  have htext : Reading [] (segments text.toList) (scan text) :=
    reading_ofSegments [] _
  obtain ⟨front, htokens, -⟩ :=
    (partition_segments text.toList).ends_in_eof htext
  rw [hwhole]
  refine ⟨⟨front, htokens, ?_⟩, rfl, ?_⟩
  · simp only [Scanned.followedBy, htokens, List.dropLast_concat]
    rfl
  intro hshort
  have hdown := line_down_of_scanned hshort
  have hlength : text.length < 2 ^ 32 - 1 ∧ later.length < 2 ^ 32 - 1 := by
    rw [String.length_append, String.length_append] at hshort
    omega
  have habove : ∀ position ∈ (scan text).positions, position.line ≤ lines := by
    intro position hposition
    exact (line_of_scanned hlength.1 position hposition).2
  have hbelow : ∀ position ∈ ((scan later).down lines).positions,
      lines < position.line := by
    rw [Scanned.positions_down, List.forall_mem_map]
    intro position hposition
    have hline := (line_of_scanned hlength.2 position hposition).1
    rw [hdown position hposition]
    omega
  exact ⟨hdown, Scanned.filter_followedBy habove hbelow⟩

/-- The first text has an unclosed comment behind faults of every other kind,
and a string of two lines; the second begins with what would end them. -/
theorem faulty_lines_scan_apart :
    let text := "a / \"x\ny\" @ // c"
    let later := "/ b\n\"d"
    (∀ error ∈ (scan text).errors, error.fault ≠ .unterminatedString) ∧
      (scan (text ++ "\n" ++ later)).errors =
        [⟨.singleSlash, ⟨1, 3⟩⟩, ⟨.unsupportedRune '@', ⟨2, 4⟩⟩,
          ⟨.singleSlash, ⟨3, 1⟩⟩, ⟨.unterminatedString, ⟨4, 1⟩⟩] ∧
      (scan (text ++ "\n" ++ later)).tokens.filter (2 < ·.position.line) =
        [⟨.identifier, "b", ⟨3, 3⟩⟩, ⟨.eof, "", ⟨4, 3⟩⟩] := by
  intro text later
  have herrors : (scan text).errors =
      [⟨.singleSlash, ⟨1, 3⟩⟩, ⟨.unsupportedRune '@', ⟨2, 4⟩⟩] := by decide +kernel
  have hclosed : ∀ error ∈ (scan text).errors,
      error.fault ≠ .unterminatedString := by
    rw [herrors]
    decide
  have hlater : scan later =
      ⟨[⟨.identifier, "b", ⟨1, 3⟩⟩, ⟨.eof, "", ⟨2, 3⟩⟩],
        [⟨.singleSlash, ⟨1, 1⟩⟩, ⟨.unterminatedString, ⟨2, 1⟩⟩]⟩ := by decide +kernel
  obtain ⟨-, hwhole, hshort⟩ := scan_across_line_break text later hclosed
  obtain ⟨-, hbelow, -⟩ := hshort (by decide)
  have hlines : text.toList.count '\n' + 1 = 2 := by decide
  rw [hlines, hlater] at hbelow
  rw [hlines, hlater, herrors] at hwhole
  exact ⟨hclosed, hwhole, hbelow⟩

end Statecharts.Description
