import Statecharts.Proofs.Signature.Pieces

/-!
# Which signatures are read, and as what

A signature is well formed when its characters belong to one, its templates
are balanced, and every piece names an argument that no other piece names.
Such a signature has one argument for each piece; any other fails with the
first fault of its text, and when the text has none, of its pieces.
-/

namespace Statecharts.Signature

def NameChar (c : Char) : Prop :=
  Text.isLetter c ∨ Text.isDecimalDigit c ∨ c = '_'

/-- The words of a text that single or repeated spaces separate. -/
def wordsOf (text : List Char) : List (List Char) :=
  (text.splitOn ' ').filter (· ≠ [])

def pieceWords (text : List Char) : List (List (List Char)) :=
  (topPieces text).map wordsOf

structure WellFormed (text : List Char) : Prop where
  chars : ∀ c ∈ text, SignatureChar c
  balanced : Balanced text
  named : ∀ words ∈ pieceWords text, 2 ≤ words.length ∧
    ∀ name ∈ words.getLast?, ∀ c ∈ name, NameChar c
  distinct : ((pieceWords text).map List.getLast?).Nodup

/-- The last word names an argument, the words before it are its type. -/
structure Reads (words : List (List Char)) (argument : Argument) : Prop where
  enough : 2 ≤ words.length
  name : words.getLast? = some argument.name.toList
  valid : ∀ c ∈ argument.name.toList, NameChar c
  type : argument.type = String.ofList ([' '].intercalate words.dropLast)

/-- What is wrong with a piece, given the words of every piece. -/
inductive PieceFault (pieces : List (List (List Char))) :
    Nat → SignatureError → Prop
  | missingName {index : Nat} {words : List (List Char)}
      (hwords : pieces[index]? = some words) (hfew : words.length < 2) :
      PieceFault pieces index
        (.missingName (String.ofList ([' '].intercalate words)))
  | invalidName {index : Nat} {words : List (List Char)}
      {good bad : List Char} {c : Char}
      (hwords : pieces[index]? = some words) (henough : 2 ≤ words.length)
      (hname : words.getLast? = some (good ++ c :: bad))
      (hgood : ∀ d ∈ good, NameChar d) (hinvalid : ¬ NameChar c) :
      PieceFault pieces index
        (.invalidName (String.ofList ([' '].intercalate words)) c)
  | duplicate {index : Nat} {words : List (List Char)} {name : List Char}
      (hwords : pieces[index]? = some words) (henough : 2 ≤ words.length)
      (hname : words.getLast? = some name) (hvalid : ∀ c ∈ name, NameChar c)
      (hearlier : some name ∈ (pieces.take index).map List.getLast?) :
      PieceFault pieces index (.duplicateArgument (String.ofList name))

theorem isNameChar_iff (c : Char) :
    isNameChar c = true ↔ NameChar c := by
  simp [isNameChar, NameChar, or_assoc]

/-! ## Words -/

theorem splitOn_eq_leadingWord (text : List Char) :
    ∃ later, text.splitOn ' ' = (leadingWord text).1 :: later ∧
      (leadingWord text).2 = later.filter (· ≠ []) := by
  induction text with
  | nil =>
      exact ⟨[], by simp [leadingWord], by simp [leadingWord]⟩
  | cons c text ih =>
      obtain ⟨later, hsplit, hlater⟩ := ih
      rw [List.splitOn_cons_eq_if_modifyHead, hsplit, leadingWord]
      by_cases hspace : c = ' '
      · refine ⟨(leadingWord text).1 :: later, by simp [hspace], ?_⟩
        by_cases hempty : (leadingWord text).1 = [] <;>
          simp [hspace, hempty, hlater]
      · exact ⟨later, by simp [hspace], by simpa [hspace] using hlater⟩

theorem words_eq_wordsOf (text : List Char) :
    words text = wordsOf text := by
  obtain ⟨later, hsplit, hlater⟩ := splitOn_eq_leadingWord text
  rw [wordsOf, hsplit]
  simp only [words, hlater]
  by_cases hempty : (leadingWord text).1 = [] <;> simp [hempty]

/-! ## One piece -/

theorem argumentOfWords_of_few {words : List (List Char)}
    (hfew : words.length < 2) :
    argumentOfWords words = .error (.missingName (unwords words)) := by
  match words, hfew with
  | [], _ => rfl
  | [_], _ => rfl

theorem argumentOfWords_of_enough {words : List (List Char)}
    {name : List Char} (henough : 2 ≤ words.length)
    (hname : words.getLast? = some name) :
    argumentOfWords words =
      match name.find? (!isNameChar ·) with
      | some c => .error (.invalidName (unwords words) c)
      | none => .ok ⟨unwords words.dropLast, String.ofList name⟩ := by
  match words, henough with
  | first :: second :: more, _ =>
      rw [argumentOfWords, hname]
      rfl

theorem find?_isNameChar_eq_none_iff (name : List Char) :
    name.find? (!isNameChar ·) = none ↔ ∀ c ∈ name, NameChar c := by
  simp [← isNameChar_iff]

theorem find?_isNameChar_eq_some_iff (name : List Char) (c : Char) :
    name.find? (!isNameChar ·) = some c ↔
      ¬ NameChar c ∧ ∃ good bad, name = good ++ c :: bad ∧
        ∀ d ∈ good, NameChar d := by
  simp [List.find?_eq_some_iff_append, ← isNameChar_iff]

theorem exists_getLast?_of_enough {words : List (List Char)}
    (henough : 2 ≤ words.length) : ∃ name, words.getLast? = some name := by
  have hwords : words ≠ [] := List.ne_nil_of_length_pos (by omega)
  exact ⟨words.getLast hwords, List.getLast?_eq_some_getLast hwords⟩

theorem argumentOfWords_ok_iff (words : List (List Char))
    (argument : Argument) :
    argumentOfWords words = .ok argument ↔ Reads words argument := by
  constructor
  · intro hok
    by_cases henough : 2 ≤ words.length
    · obtain ⟨name, hname⟩ := exists_getLast?_of_enough henough
      rw [argumentOfWords_of_enough henough hname] at hok
      split at hok
      next => cases hok
      next hvalid =>
        cases hok
        rw [find?_isNameChar_eq_none_iff] at hvalid
        exact ⟨henough, by simpa using hname, by simpa using hvalid, rfl⟩
    · rw [argumentOfWords_of_few (by omega)] at hok
      cases hok
  · intro hreads
    rw [argumentOfWords_of_enough hreads.enough hreads.name,
      (find?_isNameChar_eq_none_iff _).mpr hreads.valid]
    simp [unwords, ← hreads.type]

/-! ## All pieces -/

def readStep (read : List Argument) (_ : Nat) (words : List (List Char)) :
    Except SignatureError (List Argument) := do
  let argument ← argumentOfWords words
  if argument.name ∈ read.map Argument.name then
    throw (.duplicateArgument argument.name)
  return read ++ [argument]

theorem sweep_readStep (read : List Argument) (index : Nat)
    (all : List (List Char)) :
    sweep readStep read index (all.map wordsOf) =
      (argumentsOfPieces (read.map Argument.name).reverse all).map
        (read ++ ·) := by
  induction all generalizing read index with
  | nil =>
      simp [sweep, argumentsOfPieces, Except.map]
  | cons piece all ih =>
      rw [List.map_cons, sweep, argumentsOfPieces, words_eq_wordsOf, readStep]
      cases argumentOfWords (wordsOf piece) with
      | error => rfl
      | ok argument =>
          simp only [Except.ok_bind, List.mem_reverse]
          split
          next => rfl
          next =>
            have hnext := ih (read ++ [argument]) (index + 1)
            simp only [List.map_append, List.map_cons, List.map_nil,
              List.reverse_append, List.reverse_singleton,
              List.singleton_append] at hnext
            rw [pure_bind, hnext]
            cases argumentsOfPieces
              (argument.name :: (read.map Argument.name).reverse) all <;>
              simp [Except.map]

structure ReadUpTo (pieces : List (List (List Char))) (count : Nat)
    (read : List Argument) : Prop where
  reads : List.Forall₂ Reads (pieces.take count) read
  distinct : (read.map Argument.name).Nodup

theorem lastWords_of_reads {pieces : List (List (List Char))}
    {arguments : List Argument}
    (hreads : List.Forall₂ Reads pieces arguments) :
    pieces.map List.getLast? =
      arguments.map fun argument => some argument.name.toList := by
  induction hreads with
  | nil => rfl
  | cons hread _ ih => rw [List.map_cons, List.map_cons, hread.name, ih]

theorem ReadUpTo.mem_names_iff {pieces : List (List (List Char))}
    {count : Nat} {read : List Argument} (hread : ReadUpTo pieces count read)
    (name : String) :
    name ∈ read.map Argument.name ↔
      some name.toList ∈ (pieces.take count).map List.getLast? := by
  rw [lastWords_of_reads hread.reads]
  simp [String.toList_inj]

theorem read_rule (pieces : List (List (List Char))) :
    StepRule readStep pieces (PieceFault pieces) (ReadUpTo pieces) where
  bound := by
    intro index error hfault
    rcases hfault with ⟨hwords, -⟩ | ⟨hwords, -⟩ | ⟨hwords, -⟩ <;>
      exact (List.getElem?_eq_some_iff.mp hwords).1
  fails_iff := by
    intro index words read hwords hinv error
    constructor
    · intro herror
      by_cases henough : 2 ≤ words.length
      · obtain ⟨name, hname⟩ := exists_getLast?_of_enough henough
        rw [readStep, argumentOfWords_of_enough henough hname] at herror
        split at herror
        next c hfind =>
          obtain ⟨hinvalid, good, bad, rfl, hgood⟩ :=
            (find?_isNameChar_eq_some_iff name c).mp hfind
          cases herror
          exact .invalidName hwords henough hname hgood hinvalid
        next hfind =>
          have hvalid := (find?_isNameChar_eq_none_iff name).mp hfind
          rw [Except.ok_bind] at herror
          split at herror
          next hearlier =>
            rw [hinv.mem_names_iff, String.toList_ofList] at hearlier
            cases herror
            exact .duplicate hwords henough hname hvalid hearlier
          next => cases herror
      · have hfew : words.length < 2 := by omega
        rw [readStep, argumentOfWords_of_few hfew] at herror
        cases herror
        exact .missingName hwords hfew
    · intro hfault
      rw [readStep]
      cases hfault with
      | missingName hwords' hfew =>
          rw [hwords] at hwords'
          cases hwords'
          rw [argumentOfWords_of_few hfew]
          rfl
      | @invalidName _ good bad c hwords' henough hname hgood hinvalid =>
          rw [hwords] at hwords'
          cases hwords'
          have hfind := (find?_isNameChar_eq_some_iff _ c).mpr
            ⟨hinvalid, good, bad, rfl, hgood⟩
          rw [argumentOfWords_of_enough henough hname, hfind]
          rfl
      | @duplicate _ name hwords' henough hname hvalid hearlier =>
          rw [hwords] at hwords'
          cases hwords'
          have hfind := (find?_isNameChar_eq_none_iff name).mpr hvalid
          have hmem : String.ofList name ∈ read.map Argument.name := by
            rwa [hinv.mem_names_iff, String.toList_ofList]
          rw [argumentOfWords_of_enough henough hname, hfind, Except.ok_bind,
            if_pos hmem]
          rfl
  keeps := by
    intro index words read next hwords hinv hnext
    unfold readStep at hnext
    obtain ⟨argument, hargument, hnext⟩ := Except.bind_eq_ok_iff.mp hnext
    have hreads := (argumentOfWords_ok_iff words argument).mp hargument
    split at hnext
    next => cases hnext
    next hnew =>
      cases hnext
      constructor
      · simp only [List.take_add_one, hwords, Option.toList_some]
        exact List.rel_append hinv.reads (.cons hreads .nil)
      · rw [List.map_append, List.nodup_append]
        refine ⟨hinv.distinct, by simp, ?_⟩
        rintro name hname _ hother rfl
        obtain rfl : name = argument.name := by simpa using hother
        exact hnew hname

theorem readUpTo_nil (pieces : List (List (List Char))) :
    ReadUpTo pieces 0 [] :=
  ⟨.nil, .nil⟩

theorem argumentsOfPieces_eq_sweep (all : List (List Char)) :
    argumentsOfPieces [] all = sweep readStep [] 0 (all.map wordsOf) := by
  have hsweep := sweep_readStep [] 0 all
  rw [hsweep]
  cases hall : argumentsOfPieces [] all <;> simp [hall, Except.map]

theorem argumentsOfPieces_error_iff (all : List (List Char))
    (error : SignatureError) :
    argumentsOfPieces [] all = .error error ↔
      FirstFaultOf [PieceFault (all.map wordsOf)] error := by
  rw [argumentsOfPieces_eq_sweep, firstFaultOf_singleton_iff]
  exact (read_rule _).sweep_error_iff (readUpTo_nil _) error

theorem parse_error_iff (raw : String) (error : SignatureError) :
    parse raw = .error error ↔
      FirstFaultOf [CharFault raw.toList, EndFault raw.toList,
        PieceFault (pieceWords raw.toList)] error := by
  rw [parse]
  refine bind_error_iff_firstFaultOf [CharFault raw.toList, EndFault raw.toList]
    [PieceFault (pieceWords raw.toList)] (pieces_error_iff raw.toList) ?_ error
  intro all hall
  obtain ⟨rfl, -, -⟩ := pieces_ok hall
  exact argumentsOfPieces_error_iff _

theorem faultless_pieceFault_iff (pieces : List (List (List Char))) :
    Faultless (PieceFault pieces) ↔
      (∀ words ∈ pieces, 2 ≤ words.length ∧
        ∀ name ∈ words.getLast?, ∀ c ∈ name, NameChar c) ∧
      (pieces.map List.getLast?).Nodup := by
  constructor
  · intro hfaultless
    have hnamed : ∀ words ∈ pieces, 2 ≤ words.length ∧
        ∀ name ∈ words.getLast?, ∀ c ∈ name, NameChar c := by
      intro words hwords
      obtain ⟨index, hindex⟩ := List.mem_iff_getElem?.mp hwords
      have henough : 2 ≤ words.length := by
        by_contra hfew
        exact hfaultless index _ (.missingName hindex (by omega))
      refine ⟨henough, fun name hname => ?_⟩
      rw [← find?_isNameChar_eq_none_iff, Option.eq_none_iff_forall_ne_some]
      intro c hfind
      obtain ⟨hinvalid, good, bad, rfl, hgood⟩ :=
        (find?_isNameChar_eq_some_iff name c).mp hfind
      exact hfaultless index _
        (.invalidName hindex henough hname hgood hinvalid)
    refine ⟨hnamed, nodup_iff_notMem_take.mpr fun index last hlast => ?_⟩
    rw [List.getElem?_map, Option.map_eq_some_iff] at hlast
    obtain ⟨words, hwords, rfl⟩ := hlast
    obtain ⟨henough, hvalid⟩ := hnamed words (List.mem_of_getElem? hwords)
    obtain ⟨name, hname⟩ := exists_getLast?_of_enough henough
    intro hearlier
    rw [hname, ← List.map_take] at hearlier
    exact hfaultless index _
      (.duplicate hwords henough hname (hvalid name hname) hearlier)
  · rintro ⟨hnamed, hdistinct⟩ index error hfault
    cases hfault with
    | missingName hwords hfew =>
        have henough := (hnamed _ (List.mem_of_getElem? hwords)).1
        omega
    | invalidName hwords henough hname hgood hinvalid =>
        have hvalid := (hnamed _ (List.mem_of_getElem? hwords)).2 _ hname
        exact hinvalid (hvalid _ (by simp))
    | duplicate hwords henough hname hvalid hearlier =>
        rw [List.map_take] at hearlier
        refine nodup_iff_notMem_take.mp hdistinct index _ ?_ hearlier
        rw [List.getElem?_map, hwords, Option.map_some, hname]

theorem wellFormed_iff_faultless (text : List Char) :
    WellFormed text ↔
      ∀ Fault ∈ [CharFault text, EndFault text, PieceFault (pieceWords text)],
        Faultless Fault := by
  simp only [List.forall_mem_cons, List.not_mem_nil, false_imp_iff,
    implies_true, and_true, faultless_charFault_iff, faultless_endFault_iff,
    faultless_pieceFault_iff]
  constructor
  · intro hformed
    exact ⟨⟨hformed.chars, hformed.balanced.opened⟩, hformed.balanced.closed,
      hformed.named, hformed.distinct⟩
  · rintro ⟨⟨hchars, hopened⟩, hclosed, hnamed, hdistinct⟩
    exact ⟨hchars, ⟨hopened, hclosed⟩, hnamed, hdistinct⟩

theorem exists_parse_ok_iff (raw : String) :
    (∃ arguments, parse raw = .ok arguments) ↔ WellFormed raw.toList := by
  rw [wellFormed_iff_faultless]
  exact exists_ok_iff_faultless (parse_error_iff raw)

/-! ## What is read -/

theorem reads_of_parse {raw : String} {arguments : List Argument}
    (hparse : parse raw = .ok arguments) :
    List.Forall₂ Reads (pieceWords raw.toList) arguments := by
  obtain ⟨all, hall, harguments⟩ := Except.bind_eq_ok_iff.mp hparse
  obtain ⟨rfl, -, -⟩ := pieces_ok hall
  rw [argumentsOfPieces_eq_sweep] at harguments
  have hread := ((read_rule _).sweep_ok (readUpTo_nil _) harguments).1.reads
  rwa [List.take_length] at hread

theorem depthBehind_of_neutral {text : List Char} (depth : Nat)
    (hneutral : ∀ c ∈ text, c ≠ '<' ∧ c ≠ '>') :
    depthBehind depth text = some depth := by
  induction text with
  | nil => rfl
  | cons c text ih =>
      obtain ⟨hopen, hclose⟩ := hneutral c List.mem_cons_self
      have hafter : depthAfter c depth = some depth :=
        (depthAfter_eq_some_iff c depth depth).mpr (by simp [hopen, hclose])
      rw [depthBehind_cons, hafter]
      exact ih fun d hd => hneutral d (List.mem_cons_of_mem c hd)

/-- Spaces between words do not count. -/
theorem depthBehind_intercalate (depth : Nat) (parts : List (List Char)) :
    depthBehind depth ([' '].intercalate parts) =
      depthBehind depth parts.flatten := by
  induction parts generalizing depth with
  | nil => rfl
  | cons part parts ih =>
      cases parts with
      | nil => simp
      | cons next more =>
          have hspace : ∀ inner, depthBehind inner [' '] = some inner :=
            fun inner => depthBehind_of_neutral inner (by simp)
          rw [List.intercalate_cons_cons, List.flatten_cons, depthBehind_append,
            depthBehind_append, depthBehind_append]
          cases depthBehind depth part with
          | none => rfl
          | some inner => simp only [Option.bind_some, hspace, ih]

theorem NameChar.neutral {c : Char} (hname : NameChar c) :
    c ≠ '<' ∧ c ≠ '>' := by
  rw [← isNameChar_iff] at hname
  constructor
  · rintro rfl
    revert hname
    decide
  · rintro rfl
    revert hname
    decide

theorem Reads.type_balanced {piece : List Char} {argument : Argument}
    (hreads : Reads (wordsOf piece) argument) (hpiece : Balanced piece) :
    Balanced argument.type.toList := by
  rw [balanced_iff] at hpiece ⊢
  have hwords : depthBehind 0 (wordsOf piece).flatten = some 0 := by
    rw [wordsOf, List.flatten_filter_ne_nil, ← depthBehind_intercalate,
      List.intercalate_splitOn, hpiece]
  have hname : ∀ inner,
      depthBehind inner argument.name.toList = some inner := fun inner =>
    depthBehind_of_neutral inner fun c hc => (hreads.valid c hc).neutral
  have hsplit := List.dropLast_append_getLast? _ hreads.name
  rw [← hsplit, List.flatten_append, depthBehind_append] at hwords
  rw [hreads.type, String.toList_ofList, depthBehind_intercalate]
  cases hdepth : depthBehind 0 (wordsOf piece).dropLast.flatten with
  | none => simp [hdepth] at hwords
  | some inner => simpa [hdepth, hname] using hwords

theorem Reads.type_ne_empty {piece : List Char} {argument : Argument}
    (hreads : Reads (wordsOf piece) argument) : argument.type ≠ "" := by
  have henough := hreads.enough
  cases htype : (wordsOf piece).dropLast with
  | nil =>
      have hlength := congrArg List.length htype
      simp at hlength
      omega
  | cons first more =>
      have hfirst : first ≠ [] := by
        have hmem : first ∈ wordsOf piece :=
          List.mem_of_mem_dropLast (htype ▸ List.mem_cons_self)
        simpa [wordsOf] using (List.mem_filter.mp hmem).2
      intro hempty
      rw [hreads.type, htype] at hempty
      have hlist := congrArg String.toList hempty
      cases more <;> simp [hfirst, List.intercalate_cons_cons] at hlist

theorem Reads.name_ne_empty {piece : List Char} {argument : Argument}
    (hreads : Reads (wordsOf piece) argument) : argument.name ≠ "" := by
  have hmem := List.mem_of_getLast? hreads.name
  rw [wordsOf, List.mem_filter] at hmem
  intro hempty
  simp [hempty] at hmem

theorem parse_ne_nil {raw : String} {arguments : List Argument}
    (hparse : parse raw = .ok arguments) : arguments ≠ [] := by
  have hlength := (reads_of_parse hparse).length_eq
  intro hnone
  rw [hnone, pieceWords, topPieces] at hlength
  simp at hlength

/-- Every argument that is read comes from the words of a balanced piece. -/
theorem exists_piece_of_parse {raw : String} {arguments : List Argument}
    (hparse : parse raw = .ok arguments) :
    ∀ argument ∈ arguments,
      ∃ piece, Balanced piece ∧ Reads (wordsOf piece) argument := by
  intro argument hargument
  obtain ⟨all, hall, -⟩ := Except.bind_eq_ok_iff.mp hparse
  have hbalanced := pieces_balanced hall
  obtain ⟨rfl, -, -⟩ := pieces_ok hall
  obtain ⟨words, hwords, hreads⟩ :=
    exists_mem_left_of_forall₂ (reads_of_parse hparse) hargument
  obtain ⟨piece, hpiece, rfl⟩ := List.mem_map.mp hwords
  exact ⟨piece, hbalanced piece hpiece, hreads⟩

/-! ## The whole reader -/

theorem parse_by_grammar (raw : String) :
    ((∃ arguments, parse raw = .ok arguments) ↔ WellFormed raw.toList) ∧
    (∀ arguments, parse raw = .ok arguments →
      List.Forall₂ Reads (pieceWords raw.toList) arguments ∧
      arguments ≠ [] ∧
      ∀ argument ∈ arguments,
        argument.type ≠ "" ∧ Balanced argument.type.toList) ∧
    ∀ error, parse raw = .error error ↔
      FirstFaultOf [CharFault raw.toList, EndFault raw.toList,
        PieceFault (pieceWords raw.toList)] error := by
  refine ⟨exists_parse_ok_iff raw, fun arguments hparse => ?_,
    parse_error_iff raw⟩
  refine ⟨reads_of_parse hparse, parse_ne_nil hparse, ?_⟩
  intro argument hargument
  obtain ⟨piece, hpiece, hreads⟩ := exists_piece_of_parse hparse argument hargument
  exact ⟨hreads.type_ne_empty, hreads.type_balanced hpiece⟩

theorem templated_signature_reads :
    parse "std::map<K, V>& m,  int n" =
        .ok [⟨"std::map<K, V>&", "m"⟩, ⟨"int", "n"⟩] ∧
      WellFormed "std::map<K, V>& m,  int n".toList ∧
      Balanced "std::map<K, V>&".toList := by
  have hparse : parse "std::map<K, V>& m,  int n" =
      .ok [⟨"std::map<K, V>&", "m"⟩, ⟨"int", "n"⟩] := by
    decide
  obtain ⟨hformed, hread, -⟩ := parse_by_grammar "std::map<K, V>& m,  int n"
  obtain ⟨-, -, htypes⟩ := hread _ hparse
  exact ⟨hparse, hformed.mp ⟨_, hparse⟩, (htypes _ List.mem_cons_self).2⟩

end Statecharts.Signature
