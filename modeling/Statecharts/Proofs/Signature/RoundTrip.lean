import Statecharts.Chart.Basic
import Statecharts.Proofs.Signature.Grammar
import Statecharts.Proofs.Text.Lines

/-!
# Printed signatures are read back

The arguments that were read are written one after another with commas between
them, each as the words of its type and its name.  A piece that is written in
this way has the words of the piece it was read from, and like that piece it is
cut nowhere, for spaces change neither the depth nor where a comma separates.
-/

namespace Statecharts.Signature

/-- A signature as it is written. -/
def render (arguments : List Argument) : String :=
  ", ".intercalate (arguments.map Argument.text)

/-! ## Texts that are one piece -/

namespace Whole

variable {depth : Nat} {text : List Char}

theorem cut_eq (hwhole : Whole depth text) (index : Nat) :
    cut index depth text = .ok (text, []) := by
  induction hwhole generalizing index with
  | nil => rfl
  | cons hinside hchar hafter _ ih =>
      simp only [cut, if_neg hinside, if_pos hchar, hafter, ih]
      rfl

theorem cut_append (hwhole : Whole depth text) (index : Nat)
    (later : List Char) :
    cut index depth (text ++ ',' :: later) =
      (cut (index + text.length + 1) 0 later).map
        fun (piece, more) => (text, piece :: more) := by
  induction hwhole generalizing index with
  | nil => simp [cut]
  | @cons c depth inner text hinside hchar hafter _ ih =>
      have hindex : index + 1 + text.length + 1 =
          index + (text.length + 1) + 1 := by
        omega
      simp only [List.cons_append, cut, if_neg hinside, if_pos hchar, hafter, ih,
        List.length_cons, hindex]
      cases cut (index + (text.length + 1) + 1) 0 later <;> rfl

theorem cons_space_iff : Whole depth (' ' :: text) ↔ Whole depth text := by
  have hchar : isSignatureChar ' ' = true := by decide
  have hafter : depthAfter ' ' depth = some depth := by
    simp [depthAfter]
  constructor
  · intro hwhole
    rcases hwhole with _ | ⟨-, -, hafter', hrest⟩
    rw [hafter] at hafter'
    cases hafter'
    exact hrest
  · exact .cons (by simp) hchar hafter

/-- Whether a text is one piece does not depend on its spaces. -/
theorem filter_iff :
    Whole depth (text.filter (· ≠ ' ')) ↔ Whole depth text := by
  induction text generalizing depth with
  | nil => rfl
  | cons c text ih =>
      by_cases hspace : c = ' '
      · rw [hspace, cons_space_iff, ← ih]
        rfl
      · rw [List.filter_cons_of_pos (by simpa using hspace)]
        constructor
        · intro hwhole
          rcases hwhole with _ | ⟨hinside, hchar, hafter, hrest⟩
          exact .cons hinside hchar hafter (ih.mp hrest)
        · intro hwhole
          rcases hwhole with _ | ⟨hinside, hchar, hafter, hrest⟩
          exact .cons hinside hchar hafter (ih.mpr hrest)

end Whole

theorem cut_intercalate {first : List Char} {later : List (List Char)}
    (hfirst : Whole 0 first) (hlater : ∀ piece ∈ later, Whole 0 piece)
    (index : Nat) :
    cut index 0 ([','].intercalate (first :: later)) = .ok (first, later) := by
  induction later generalizing first index with
  | nil => simpa using hfirst.cut_eq index
  | cons next later ih =>
      rw [List.forall_mem_cons] at hlater
      rw [List.intercalate_cons_cons, List.append_assoc, List.singleton_append,
        hfirst.cut_append, ih hlater.1 hlater.2]
      rfl

/-! ## Words that are written with single spaces -/

theorem wordsOf_intercalate {parts : List (List Char)}
    (hparts : ∀ part ∈ parts, part ≠ [] ∧ ' ' ∉ part) :
    wordsOf ([' '].intercalate parts) = parts := by
  by_cases hnone : parts = []
  · subst hnone
    rfl
  · rw [wordsOf, List.splitOn_intercalate ' '
      (fun part hpart => (hparts part hpart).2) hnone, List.filter_eq_self]
    intro part hpart
    simpa using (hparts part hpart).1

theorem mem_wordsOf {text part : List Char} (hpart : part ∈ wordsOf text) :
    part ≠ [] ∧ ' ' ∉ part := by
  obtain ⟨hmem, hne⟩ := List.mem_filter.mp hpart
  exact ⟨by simpa using hne, Text.not_mem_of_mem_splitOn hmem⟩

theorem words_cons_space (text : List Char) :
    words (' ' :: text) = words text := by
  simp [words, leadingWord]

theorem filter_intercalate (parts : List (List Char)) :
    ([' '].intercalate parts).filter (· ≠ ' ') =
      parts.flatten.filter (· ≠ ' ') := by
  induction parts with
  | nil => rfl
  | cons part parts ih =>
      cases parts with
      | nil => simp
      | cons next more =>
          rw [List.intercalate_cons_cons, List.filter_append, ih]
          simp

/-- Writing the words of a piece apart from its other spaces leaves it whole. -/
theorem Whole.intercalate_wordsOf {depth : Nat} {piece : List Char}
    (hpiece : Whole depth piece) :
    Whole depth ([' '].intercalate (wordsOf piece)) := by
  rw [← filter_iff, filter_intercalate, wordsOf, List.flatten_filter_ne_nil,
    ← filter_intercalate, List.intercalate_splitOn, filter_iff]
  exact hpiece

theorem intercalate_concat {parts : List (List Char)} (hparts : parts ≠ [])
    (last : List Char) :
    [' '].intercalate (parts ++ [last]) =
      [' '].intercalate parts ++ ' ' :: last := by
  induction parts with
  | nil => exact absurd rfl hparts
  | cons part parts ih =>
      cases parts with
      | nil => simp
      | cons next more =>
          rw [List.cons_append, List.cons_append, List.intercalate_cons_cons,
            ← List.cons_append, ih (by simp), List.intercalate_cons_cons]
          simp

theorem Reads.toList_text {words : List (List Char)} {argument : Argument}
    (hreads : Reads words argument) :
    argument.text.toList = [' '].intercalate words := by
  have hsplit := List.dropLast_append_getLast? _ hreads.name
  have htype : words.dropLast ≠ [] := by
    have henough := hreads.enough
    intro hnone
    rw [hnone] at hsplit
    rw [← hsplit] at henough
    simp at henough
  rw [← hsplit, intercalate_concat htype, Argument.text, hreads.type]
  simp

/-! ## Reading what was written -/

/-- The text of an argument, with any number of spaces in front of it. -/
def Spelling (argument : Argument) (text : List Char) : Prop :=
  ∃ spaces, text = List.replicate spaces ' ' ++ argument.text.toList

variable {piece text : List Char} {argument : Argument}

theorem Reads.whole_spelling (hreads : Reads (wordsOf piece) argument)
    (hpiece : Whole 0 piece) (htext : Spelling argument text) :
    Whole 0 text := by
  obtain ⟨spaces, rfl⟩ := htext
  rw [hreads.toList_text]
  induction spaces with
  | zero => exact hpiece.intercalate_wordsOf
  | succ spaces ih => exact Whole.cons_space_iff.mpr ih

theorem Reads.words_spelling (hreads : Reads (wordsOf piece) argument)
    (htext : Spelling argument text) : words text = wordsOf piece := by
  obtain ⟨spaces, rfl⟩ := htext
  induction spaces with
  | zero =>
      rw [List.replicate_zero, List.nil_append, hreads.toList_text,
        words_eq_wordsOf]
      exact wordsOf_intercalate fun part hpart => mem_wordsOf hpart
  | succ spaces ih =>
      rwa [List.replicate_succ, List.cons_append, words_cons_space]

theorem argumentsOfPieces_ok {all : List (List Char)}
    {arguments : List Argument} {taken : List String}
    (hall : List.Forall₂ (fun piece argument => Reads (words piece) argument)
      all arguments)
    (hdistinct : (arguments.map Argument.name).Nodup)
    (hnew : ∀ argument ∈ arguments, argument.name ∉ taken) :
    argumentsOfPieces taken all = .ok arguments := by
  induction hall generalizing taken with
  | nil => rfl
  | @cons piece argument all arguments hreads _ ih =>
      rw [List.map_cons, List.nodup_cons] at hdistinct
      rw [List.forall_mem_cons] at hnew
      have hlater := @ih (argument.name :: taken) hdistinct.2 (by
        intro other hother hmem
        rcases List.mem_cons.mp hmem with hsame | hmem
        · exact hdistinct.1 (hsame ▸ List.mem_map_of_mem hother)
        · exact hnew.2 other hother hmem)
      rw [argumentsOfPieces, (argumentOfWords_ok_iff _ _).mpr hreads,
        Except.ok_bind, if_neg hnew.1]
      simp only [hlater]
      rfl

theorem names_nodup_of_parse {raw : String} {arguments : List Argument}
    (hparse : parse raw = .ok arguments) :
    (arguments.map Argument.name).Nodup := by
  have hdistinct := ((exists_parse_ok_iff raw).mp ⟨arguments, hparse⟩).distinct
  rw [lastWords_of_reads (reads_of_parse hparse)] at hdistinct
  refine List.Nodup.of_map (fun name : String => some name.toList) ?_
  rwa [List.map_map]

/-- Every argument that is read comes from the words of a whole piece. -/
theorem exists_whole_piece_of_parse {raw : String} {arguments : List Argument}
    (hparse : parse raw = .ok arguments) :
    ∀ argument ∈ arguments,
      ∃ piece, Whole 0 piece ∧ Reads (wordsOf piece) argument := by
  intro argument hargument
  obtain ⟨all, hall, -⟩ := Except.bind_eq_ok_iff.mp hparse
  have hwhole := pieces_whole hall
  obtain ⟨rfl, -, -⟩ := pieces_ok hall
  obtain ⟨words, hwords, hreads⟩ :=
    exists_mem_left_of_forall₂ (reads_of_parse hparse) hargument
  obtain ⟨piece, hpiece, rfl⟩ := List.mem_map.mp hwords
  exact ⟨piece, hwhole piece hpiece, hreads⟩

/-- Arguments that were read are read again from their texts, with commas
between them and any spaces in front of them. -/
theorem parse_intercalate {raw : String} {arguments : List Argument}
    (hparse : parse raw = .ok arguments) {texts : List (List Char)}
    (htexts : List.Forall₂ Spelling arguments texts) :
    parse (String.ofList ([','].intercalate texts)) = .ok arguments := by
  have hspelled := (List.forall₂_and_left arguments texts).mpr
    ⟨exists_whole_piece_of_parse hparse, htexts⟩
  have hwhole : ∀ text ∈ texts, Whole 0 text := by
    intro text htext
    obtain ⟨argument, -, ⟨piece, hpiece, hreads⟩, hspelling⟩ :=
      exists_mem_left_of_forall₂ hspelled htext
    exact hreads.whole_spelling hpiece hspelling
  have hreads : List.Forall₂
      (fun text argument => Reads (words text) argument) texts arguments := by
    refine (hspelled.imp fun argument text hargument => ?_).flip
    obtain ⟨⟨piece, -, hreads⟩, hspelling⟩ := hargument
    rw [flip, hreads.words_spelling hspelling]
    exact hreads
  have hread : argumentsOfPieces [] texts = .ok arguments :=
    argumentsOfPieces_ok hreads (names_nodup_of_parse hparse) (by simp)
  cases texts with
  | nil =>
      cases htexts
      exact absurd rfl (parse_ne_nil hparse)
  | cons first later =>
      rw [List.forall_mem_cons] at hwhole
      rw [parse, String.toList_ofList, pieces,
        cut_intercalate hwhole.1 hwhole.2]
      exact hread

/-! ## Lists of arguments -/

/-- Texts with as many spaces in front of each as `gap` tells for its index. -/
def indented (gap : Nat → Nat) (texts : List String) : List String :=
  texts.mapIdx fun index text =>
    String.ofList (List.replicate (gap index) ' ') ++ text

/-- Texts with a comma between two of them, and with spaces. -/
def spaced (gap : Nat → Nat) (texts : List String) : String :=
  ",".intercalate (indented gap texts)

theorem spelling_indented (gap : Nat → Nat) (arguments : List Argument) :
    List.Forall₂ Spelling arguments
      ((indented gap (arguments.map Argument.text)).map String.toList) := by
  induction arguments generalizing gap with
  | nil => exact .nil
  | cons argument arguments ih =>
      rw [List.map_cons, indented, List.mapIdx_cons, List.map_cons]
      exact .cons ⟨gap 0, by simp⟩ (ih fun index => gap (index + 1))

theorem parse_spaced {raw : String} {arguments : List Argument}
    (hparse : parse raw = .ok arguments) (gap : Nat → Nat) :
    parse (spaced gap (arguments.map Argument.text)) = .ok arguments := by
  have hread := parse_intercalate hparse (spelling_indented gap arguments)
  have htext : String.ofList ([','].intercalate
      ((indented gap (arguments.map Argument.text)).map String.toList)) =
        spaced gap (arguments.map Argument.text) := by
    rw [← String.toList_inj, String.toList_ofList, spaced,
      String.toList_intercalate]
    rfl
  rwa [htext] at hread

theorem intercalate_comma (spaces first : List Char)
    (later : List (List Char)) :
    (',' :: spaces).intercalate (first :: later) =
      [','].intercalate (first :: later.map (spaces ++ ·)) := by
  induction later generalizing first with
  | nil => simp
  | cons next later ih =>
      rw [List.intercalate_cons_cons, ih, List.map_cons,
        List.intercalate_cons_cons]
      cases later <;> simp [List.intercalate_cons_cons]

theorem indented_const (spaces : Nat) (texts : List String) :
    indented (fun _ => spaces) texts =
      texts.map (String.ofList (List.replicate spaces ' ') ++ ·) := by
  apply List.ext_getElem?
  simp [indented]

/-- Spaces behind every comma stand in front of every text but the first. -/
theorem intercalate_eq_spaced (spaces : Nat) (texts : List String) :
    (String.ofList (',' :: List.replicate spaces ' ')).intercalate texts =
      spaced (fun index => if index = 0 then 0 else spaces) texts := by
  rw [← String.toList_inj, spaced, String.toList_intercalate,
    String.toList_intercalate, String.toList_ofList]
  cases texts with
  | nil => rfl
  | cons first later =>
      have hindented :
          indented (fun index => if index = 0 then 0 else spaces)
              (first :: later) =
            first :: indented (fun _ => spaces) later := by
        simp [indented, List.mapIdx_cons]
      rw [hindented, indented_const, List.map_cons, List.map_cons,
        intercalate_comma]
      simp [Function.comp_def]

theorem parse_render {raw : String} {arguments : List Argument}
    (hparse : parse raw = .ok arguments) :
    parse (render arguments) = .ok arguments := by
  have hrender : render arguments =
      spaced (fun index => if index = 0 then 0 else 1)
        (arguments.map Argument.text) :=
    intercalate_eq_spaced 1 _
  rw [hrender]
  exact parse_spaced hparse _

/-- Arguments that were read are read again from the list of their texts,
with any number of spaces behind the commas. -/
theorem printed_arguments_read_back (raw : String) (trigger : Trigger)
    (hparse : parse raw = .ok trigger.arguments) :
    (∀ spaces : Nat,
      parse ((String.ofList (',' :: List.replicate spaces ' ')).intercalate
        trigger.argumentTexts) = .ok trigger.arguments) ∧
    ∀ gap : Nat → Nat,
      parse (spaced gap trigger.argumentTexts) = .ok trigger.arguments := by
  have hspaced : ∀ gap : Nat → Nat,
      parse (spaced gap trigger.argumentTexts) = .ok trigger.arguments :=
    parse_spaced hparse
  refine ⟨fun spaces => ?_, hspaced⟩
  rw [intercalate_eq_spaced]
  exact hspaced _

/-- The commas inside the templates stay, and the spaces between words become
single ones. -/
theorem nested_templates_read_back :
    let trigger : Trigger :=
      ⟨"put", [⟨"const std::map<K, std::pair<A, B>>&", "m"⟩, ⟨"int", "n"⟩]⟩
    parse " const std::map<K,  std::pair<A, B>>&  m ,int n" =
        .ok trigger.arguments ∧
      parse "const std::map<K, std::pair<A, B>>& m,int n" =
        .ok trigger.arguments ∧
      parse "  const std::map<K, std::pair<A, B>>& m,   int n" =
        .ok trigger.arguments := by
  intro trigger
  have hparse : parse " const std::map<K,  std::pair<A, B>>&  m ,int n" =
      .ok trigger.arguments := by
    decide
  obtain ⟨hjoined, hspaced⟩ := printed_arguments_read_back _ trigger hparse
  exact ⟨hparse, hjoined 0, hspaced (· + 2)⟩

end Statecharts.Signature
