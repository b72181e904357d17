import Statecharts.Json.Print
import Statecharts.Json.Read
import Statecharts.Proofs.Resolution.Sweep

/-!
# Printed JSON is read back

What is printed in the pretty form is read as the value that was printed, as
long as no object repeats or reorders its keys and the value is not nested
deeper than reading allows.  Only the characters that are left matter to what
is read next, so a reading is told by its value and its rest, and the places
that are kept for messages are passed over.
-/

namespace Statecharts.Json

/-- A reading succeeds with a value and leaves a text. -/
def Yields {α : Type} (result : Except Error (α × Cursor)) (value : α)
    (rest : List Char) : Prop :=
  ∃ place, result = .ok (value, ⟨rest, place⟩)

/-- Values without numbers that reading allows below a number of levels. -/
inductive Readable : Nat → Json → Prop
  | null {levels : Nat} : Readable levels .null
  | bool {levels : Nat} {value : Bool} : Readable levels (.bool value)
  | string {levels : Nat} {text : String} : Readable levels (.string text)
  | array {levels : Nat} {items : List Json} :
      (∀ item ∈ items, Readable levels item) →
      Readable (levels + 1) (.array items)
  | object {levels : Nat} {fields : List (String × Json)} :
      (fields.map Prod.fst).Pairwise (· < ·) →
      (∀ field ∈ fields, Readable levels field.2) →
      Readable (levels + 1) (.object fields)

/-! ## Blanks -/

theorem skipBlanks_blanks {blanks : List Char} {c : Char} (rest : List Char)
    (place : Place) (hblanks : ∀ b ∈ blanks, Cursor.isBlank b = true)
    (hc : Cursor.isBlank c = false) :
    ∃ later, (⟨blanks ++ c :: rest, place⟩ : Cursor).skipBlanks =
      ⟨c :: rest, later⟩ := by
  simp only [Cursor.skipBlanks, Cursor.skipWhile,
    List.dropWhile_append_of_pos hblanks, List.dropWhile_cons, hc]
  exact ⟨_, rfl⟩

theorem skipBlanks_none {c : Char} (rest : List Char) (place : Place)
    (hc : Cursor.isBlank c = false) :
    (⟨c :: rest, place⟩ : Cursor).skipBlanks = ⟨c :: rest, place⟩ := by
  simp [Cursor.skipBlanks, Cursor.skipWhile, hc]

theorem isBlank_newline (level : Nat) :
    ∀ b ∈ newline level, Cursor.isBlank b = true := by
  simp [newline, Cursor.isBlank]

/-! ## Strings -/

theorem hexValue?_hexDigit {n : Nat} (hn : n < 16) :
    hexValue? (hexDigit n) = some n := by
  revert n
  decide

theorem readEscape_escaped {c escape : Char}
    (hescape : (escape, c) ∈
      [('"', '"'), ('\\', '\\'), ('n', '\n'), ('r', '\r'), ('t', '\t'),
        ('b', '\x08'), ('f', '\x0c')])
    (rest : List Char) (place : Place) :
    Yields (readEscape ⟨escape :: rest, place⟩) c rest := by
  simp only [List.mem_cons, Prod.mk.injEq, List.not_mem_nil, or_false]
    at hescape
  rcases hescape with ⟨rfl, rfl⟩ | ⟨rfl, rfl⟩ | ⟨rfl, rfl⟩ | ⟨rfl, rfl⟩ |
    ⟨rfl, rfl⟩ | ⟨rfl, rfl⟩ | ⟨rfl, rfl⟩ <;>
    exact ⟨_, rfl⟩

theorem readEscape_control {c : Char} (hcontrol : c.toNat < 32)
    (rest : List Char) (place : Place) :
    Yields
      (readEscape ⟨'u' :: '0' :: '0' :: hexDigit (c.toNat / 16) ::
        hexDigit (c.toNat % 16) :: rest, place⟩) c rest := by
  have hhigh := hexValue?_hexDigit (n := c.toNat / 16) (by omega)
  have hlow := hexValue?_hexDigit (n := c.toNat % 16) (by omega)
  have hzero : hexValue? '0' = some 0 := rfl
  have hvalue : ((0 * 16 + 0) * 16 + c.toNat / 16) * 16 + c.toNat % 16 =
      c.toNat := by
    omega
  have hlone : isTrailingSurrogate c.toNat = false := by
    simp [isTrailingSurrogate]
    omega
  have hleading : isLeadingSurrogate c.toNat = false := by
    simp [isLeadingSurrogate]
    omega
  simp only [Yields, readEscape, readUnicodeEscape, readHex, Cursor.moveTo,
    hzero, hhigh, hlow, Except.ok_bind, hvalue, hlone, hleading,
    Char.ofNat_toNat]
  exact ⟨_, rfl⟩

theorem readStringChars_escapeChar (bound : Nat) (read : List Char) (c : Char)
    (rest : List Char) (place : Place) :
    ∃ later, readStringChars (bound + 1) read ⟨escapeChar c ++ rest, place⟩ =
      readStringChars bound (c :: read) ⟨rest, later⟩ := by
  have hescaped : ∀ escape : List Char,
      Yields (readEscape ⟨escape ++ rest, Cursor.Place.after place '\\'⟩) c rest →
      ∃ later,
        readStringChars (bound + 1) read ⟨'\\' :: escape ++ rest, place⟩ =
          readStringChars bound (c :: read) ⟨rest, later⟩ := by
    rintro escape ⟨later, hread⟩
    refine ⟨later, ?_⟩
    simp only [List.cons_append, readStringChars, Cursor.moveTo, hread,
      Except.ok_bind]
  unfold escapeChar
  split
  next => exact hescaped ['"'] (readEscape_escaped (by simp) rest _)
  next => exact hescaped ['\\'] (readEscape_escaped (by simp) rest _)
  next => exact hescaped ['n'] (readEscape_escaped (by simp) rest _)
  next => exact hescaped ['r'] (readEscape_escaped (by simp) rest _)
  next => exact hescaped ['t'] (readEscape_escaped (by simp) rest _)
  next hquote hslash _ _ _ =>
    split
    next hback =>
      obtain rfl : c = '\x08' := Char.toNat_inj.mp hback
      exact hescaped ['b'] (readEscape_escaped (by simp) rest _)
    split
    next hfeed =>
      obtain rfl : c = '\x0c' := Char.toNat_inj.mp hfeed
      exact hescaped ['f'] (readEscape_escaped (by simp) rest _)
    split
    next hcontrol => exact hescaped _ (readEscape_control hcontrol rest _)
    next hcontrol =>
      refine ⟨Cursor.Place.after place c, ?_⟩
      rw [List.singleton_append, readStringChars]
      split <;> simp_all [Cursor.moveTo]

theorem readStringChars_escaped {bound : Nat} {text : List Char}
    (hbound : text.length < bound) (read rest : List Char) (place : Place) :
    Yields
      (readStringChars bound read ⟨text.flatMap escapeChar ++ '"' :: rest, place⟩)
      (text.reverse ++ read) rest := by
  induction text generalizing bound read place with
  | nil =>
      obtain ⟨bound, rfl⟩ := Nat.exists_eq_add_one.mpr hbound
      exact ⟨_, rfl⟩
  | cons c text ih =>
      obtain ⟨bound, rfl⟩ : ∃ inner, bound = inner + 1 :=
        Nat.exists_eq_add_one.mpr (by omega)
      obtain ⟨next, hstep⟩ := readStringChars_escapeChar bound read c
        (text.flatMap escapeChar ++ '"' :: rest) place
      have hlength : text.length < bound := by
        simpa using hbound
      rw [List.flatMap_cons, List.append_assoc, hstep]
      simpa using ih hlength (c :: read) next

theorem escapeChar_ne_nil (c : Char) : escapeChar c ≠ [] := by
  unfold escapeChar
  split
  case h_6 => split_ifs <;> simp
  all_goals simp

theorem length_le_escaped (text : List Char) :
    text.length ≤ (text.flatMap escapeChar).length := by
  induction text with
  | nil => simp
  | cons c text ih =>
      have hc := List.length_pos_iff.mpr (escapeChar_ne_nil c)
      simp only [List.length_cons, List.flatMap_cons, List.length_append]
      omega

/-- A string without its opening quote is read back. -/
theorem readString_escaped (text : String) (rest : List Char) (place : Place) :
    Yields (readString ⟨text.toList.flatMap escapeChar ++ '"' :: rest, place⟩)
      text rest := by
  have hbound : text.toList.length <
      (text.toList.flatMap escapeChar ++ '"' :: rest).length + 1 := by
    have hlength := length_le_escaped text.toList
    rw [List.length_append]
    omega
  obtain ⟨later, hread⟩ := readStringChars_escaped hbound [] rest place
  refine ⟨later, ?_⟩
  rw [readString, hread]
  simp [Except.ok_bind, pure, Except.pure]

/-! ## What stands between items and between fields -/

def BeginsItem (text : List Char) : Prop :=
  ∃ c tail, text = c :: tail ∧ Cursor.isBlank c = false ∧ c ≠ ']'

section Separators

variable {blanks : List Char} (hblanks : ∀ b ∈ blanks, Cursor.isBlank b = true)
  (rest : List Char) (place : Place)

include hblanks

theorem hasItem_end (isFirst : Bool) :
    Yields (hasItem isFirst ⟨blanks ++ ']' :: rest, place⟩) false rest := by
  obtain ⟨later, hskip⟩ := skipBlanks_blanks rest place hblanks
    (show Cursor.isBlank ']' = false from rfl)
  simp only [hasItem, hskip]
  exact ⟨_, rfl⟩

theorem hasItem_first {text : List Char} (hhead : BeginsItem text) :
    Yields (hasItem true ⟨blanks ++ (text ++ rest), place⟩) true
      (text ++ rest) := by
  obtain ⟨c, tail, rfl, hblank, hend⟩ := hhead
  obtain ⟨later, hskip⟩ := skipBlanks_blanks (tail ++ rest) place
    hblanks hblank
  refine ⟨later, ?_⟩
  rw [List.cons_append, hasItem, hskip]
  simp only
  split <;> simp_all

theorem hasItem_next {text : List Char} (hhead : BeginsItem text) :
    Yields (hasItem false ⟨',' :: (blanks ++ (text ++ rest)), place⟩) true
      (text ++ rest) := by
  obtain ⟨c, tail, rfl, hblank, hend⟩ := hhead
  have hcomma := skipBlanks_none (blanks ++ (c :: tail ++ rest)) place
    (show Cursor.isBlank ',' = false from rfl)
  obtain ⟨later, hskip⟩ := skipBlanks_blanks (tail ++ rest)
    (Cursor.Place.after place ',') hblanks hblank
  refine ⟨later, ?_⟩
  rw [List.cons_append] at hcomma ⊢
  simp only [hasItem, hcomma, Cursor.moveTo, Char.reduceEq, imp_self,
    Bool.false_eq_true, if_false, if_true, hskip]
  split <;> simp_all

theorem hasField_end (isFirst : Bool) :
    Yields (hasField isFirst ⟨blanks ++ '}' :: rest, place⟩) false rest := by
  obtain ⟨later, hskip⟩ := skipBlanks_blanks rest place hblanks
    (show Cursor.isBlank '}' = false from rfl)
  simp only [hasField, hskip]
  exact ⟨_, rfl⟩

theorem hasField_first :
    Yields (hasField true ⟨blanks ++ '"' :: rest, place⟩) true rest := by
  obtain ⟨later, hskip⟩ := skipBlanks_blanks rest place hblanks
    (show Cursor.isBlank '"' = false from rfl)
  simp only [hasField, hskip]
  exact ⟨_, rfl⟩

theorem hasField_next :
    Yields (hasField false ⟨',' :: (blanks ++ '"' :: rest), place⟩) true
      rest := by
  have hcomma := skipBlanks_none (blanks ++ '"' :: rest) place
    (show Cursor.isBlank ',' = false from rfl)
  obtain ⟨later, hskip⟩ := skipBlanks_blanks rest
    (Cursor.Place.after place ',') hblanks (show Cursor.isBlank '"' = false from rfl)
  simp [Yields, hasField, hcomma, Cursor.moveTo, hskip]

end Separators

theorem readColon_colon (rest : List Char) (place : Place) :
    ∃ later, readColon ⟨':' :: rest, place⟩ = .ok ⟨rest, later⟩ := by
  rw [readColon, skipBlanks_none _ place rfl]
  exact ⟨_, rfl⟩

/-! ## Values -/

/-- The text of a value is read as the value, with blanks in front of it. -/
def ReadsBack (levels : Nat) (json : Json) : Prop :=
  ∀ (level bound : Nat) (blanks rest : List Char) (place : Place),
    (prettyChars level json).length ≤ bound →
    (∀ b ∈ blanks, Cursor.isBlank b = true) →
    Yields
      (readValue bound (levels + 1)
        ⟨blanks ++ (prettyChars level json ++ rest), place⟩) json rest

theorem Readable.beginsItem {levels : Nat} {json : Json}
    (hjson : Readable levels json) (level : Nat) :
    BeginsItem (prettyChars level json) := by
  cases hjson with
  | null => exact ⟨_, _, rfl, by decide, by decide⟩
  | @bool _ value => cases value <;> exact ⟨_, _, rfl, by decide, by decide⟩
  | string => exact ⟨_, _, rfl, by decide, by decide⟩
  | @array _ items => cases items <;> exact ⟨_, _, rfl, by decide, by decide⟩
  | @object _ fields => cases fields <;> exact ⟨_, _, rfl, by decide, by decide⟩

/-- Blanks in front of a value are passed over. -/
theorem readsBack_of_head {levels : Nat} {json : Json} {head : Char}
    {tail : Nat → List Char}
    (htext : ∀ level, prettyChars level json = head :: tail level)
    (hhead : Cursor.isBlank head = false)
    (hread : ∀ level bound rest place, (tail level).length ≤ bound →
      Yields (readValue (bound + 1) (levels + 1)
        ⟨head :: (tail level ++ rest), place⟩) json rest) :
    ReadsBack levels json := by
  intro level bound blanks rest place hbound hblanks
  rw [htext, List.length_cons] at hbound
  obtain ⟨bound, rfl⟩ : ∃ inner, bound = inner + 1 :=
    Nat.exists_eq_add_one.mpr (by omega)
  obtain ⟨later, hskip⟩ := skipBlanks_blanks (tail level ++ rest) place
    hblanks hhead
  have hnone := skipBlanks_none (tail level ++ rest) later hhead
  have hvalue := hread level bound rest later (by omega)
  rw [readValue, hnone] at hvalue
  rw [htext, List.cons_append, readValue, hskip]
  exact hvalue

theorem readsBack_null (levels : Nat) : ReadsBack levels .null :=
  readsBack_of_head (fun _ => rfl) rfl fun _ _ _ _ _ => ⟨_, rfl⟩

theorem readsBack_bool (levels : Nat) (value : Bool) :
    ReadsBack levels (.bool value) := by
  cases value with
  | false => exact readsBack_of_head (fun _ => rfl) rfl fun _ _ _ _ _ => ⟨_, rfl⟩
  | true => exact readsBack_of_head (fun _ => rfl) rfl fun _ _ _ _ _ => ⟨_, rfl⟩

theorem readsBack_string (levels : Nat) (text : String) :
    ReadsBack levels (.string text) := by
  have htext : ∀ level, prettyChars level (.string text) =
      '"' :: (text.toList.flatMap escapeChar ++ ['"']) := fun _ => rfl
  refine readsBack_of_head htext rfl fun level bound rest place _ => ?_
  obtain ⟨later, hread⟩ :=
    readString_escaped text rest (Cursor.Place.after place '"')
  refine ⟨later, ?_⟩
  rw [readValue, skipBlanks_none _ place rfl]
  simp only [Cursor.moveTo, List.append_assoc, List.singleton_append, hread]
  rfl

/-! ## Arrays -/

/-- The items of an array behind its first one, each with the comma in front
of it. -/
def laterItems (level : Nat) (items : List Json) : List Char :=
  items.flatMap fun item => ',' :: (newline level ++ prettyChars level item)

theorem prettyItems_cons (level : Nat) (item : Json) (items : List Json) :
    prettyItems level (item :: items) =
      newline level ++ (prettyChars level item ++ laterItems level items) := by
  induction items generalizing item with
  | nil => simp [prettyItems, laterItems]
  | cons next items ih => simp [prettyItems, ih, laterItems]

theorem laterItems_cons (level : Nat) (item : Json) (items : List Json) :
    laterItems level (item :: items) =
      ',' :: (newline level ++
        (prettyChars level item ++ laterItems level items)) := by
  simp [laterItems]

/-- One item is read, and what is left are the items behind it. -/
theorem readItems_step {levels level : Nat} (bound : Nat) {item : Json}
    {isFirst : Bool} (read : List Json) {text after : List Char} {place : Place}
    (hmore : Yields (hasItem isFirst ⟨text, place⟩) true
      (prettyChars level item ++ after))
    (hitem : ReadsBack levels item)
    (hbound : (prettyChars level item).length ≤ bound) :
    ∃ later,
      readItems (bound + 1) (levels + 1) isFirst read ⟨text, place⟩ =
        readItems bound (levels + 1) false (item :: read) ⟨after, later⟩ := by
  obtain ⟨next, hmore⟩ := hmore
  obtain ⟨later, hvalue⟩ := hitem level bound [] after next hbound (by simp)
  refine ⟨later, ?_⟩
  rw [List.nil_append] at hvalue
  rw [readItems, hmore]
  simp only [Except.ok_bind, if_true, hvalue]

theorem readItems_later {levels level bound : Nat} {items : List Json}
    (read : List Json) {blanks : List Char} (rest : List Char)
    (hbound : (laterItems level items).length < bound)
    (hitems : ∀ item ∈ items, Readable levels item ∧ ReadsBack levels item)
    (hblanks : ∀ b ∈ blanks, Cursor.isBlank b = true) (place : Place) :
    Yields
      (readItems bound (levels + 1) false read
        ⟨laterItems level items ++ (blanks ++ ']' :: rest), place⟩)
      (.array (read.reverse ++ items)) rest := by
  obtain ⟨bound, rfl⟩ : ∃ inner, bound = inner + 1 :=
    Nat.exists_eq_add_one.mpr (by omega)
  induction items generalizing bound read place with
  | nil =>
      obtain ⟨later, hend⟩ := hasItem_end hblanks rest place false
      refine ⟨later, ?_⟩
      simp only [laterItems, List.flatMap_nil, List.nil_append, readItems, hend]
      simp [Except.ok_bind, pure, Except.pure]
  | cons item items ih =>
      rw [List.forall_mem_cons] at hitems
      obtain ⟨⟨hreadable, hread⟩, hitems⟩ := hitems
      rw [laterItems_cons] at hbound ⊢
      simp only [List.length_cons, List.length_append] at hbound
      have hmore := hasItem_next (isBlank_newline level)
        (laterItems level items ++ (blanks ++ ']' :: rest)) place
        (hreadable.beginsItem level)
      obtain ⟨later, hstep⟩ := readItems_step bound read hmore hread
        (by omega)
      obtain ⟨bound, rfl⟩ : ∃ inner, bound = inner + 1 :=
        Nat.exists_eq_add_one.mpr (by omega)
      have hrest := ih (item :: read) hitems later bound (by omega)
      simpa [hstep] using hrest

theorem readsBack_array {levels : Nat} {items : List Json}
    (hitems : ∀ item ∈ items, Readable levels item ∧ ReadsBack levels item) :
    ReadsBack (levels + 1) (.array items) := by
  cases items with
  | nil =>
      refine readsBack_of_head (fun _ => rfl) rfl
        fun level bound rest place hbound => ?_
      obtain ⟨bound, rfl⟩ : ∃ inner, bound = inner + 1 :=
        Nat.exists_eq_add_one.mpr hbound
      exact ⟨_, rfl⟩
  | cons item items =>
      have htext : ∀ level, prettyChars level (.array (item :: items)) =
          '[' :: (prettyItems (level + 1) (item :: items) ++
            (newline level ++ [']'])) := by
        intro level
        simp [prettyChars]
      refine readsBack_of_head htext rfl fun level bound rest place hbound => ?_
      rw [List.forall_mem_cons] at hitems
      obtain ⟨⟨hreadable, hread⟩, hitems⟩ := hitems
      rw [prettyItems_cons] at hbound ⊢
      simp only [List.length_append, List.length_singleton] at hbound
      obtain ⟨bound, rfl⟩ : ∃ inner, bound = inner + 1 :=
        Nat.exists_eq_add_one.mpr (by omega)
      have hmore := hasItem_first (isBlank_newline (level + 1))
        (laterItems (level + 1) items ++ (newline level ++ ']' :: rest))
        (Cursor.Place.after place '[') (hreadable.beginsItem (level + 1))
      obtain ⟨next, hstep⟩ := readItems_step bound [] hmore hread
        (by omega)
      have hlength : (laterItems (level + 1) items).length < bound := by
        simp only [newline, List.length_cons] at hbound
        omega
      obtain ⟨later, hlater⟩ := readItems_later [item] rest hlength
        hitems (isBlank_newline level) next
      refine ⟨later, ?_⟩
      rw [readValue, skipBlanks_none _ place rfl]
      simp only [Cursor.moveTo, List.append_assoc, List.singleton_append, hstep,
        hlater]
      rfl

/-! ## Objects -/

/-- A field behind the quote that opens its key. -/
def fieldTail (level : Nat) (field : String × Json) : List Char :=
  field.1.toList.flatMap escapeChar ++
    '"' :: ':' :: ' ' :: prettyChars level field.2

def laterFields (level : Nat) (fields : List (String × Json)) : List Char :=
  fields.flatMap fun field =>
    ',' :: (newline level ++ '"' :: fieldTail level field)

theorem prettyFields_cons (level : Nat) (field : String × Json)
    (fields : List (String × Json)) :
    prettyFields level (field :: fields) =
      newline level ++
        '"' :: (fieldTail level field ++ laterFields level fields) := by
  induction fields generalizing field with
  | nil => simp [prettyFields, laterFields, fieldTail, stringChars]
  | cons next fields ih =>
      simp [prettyFields, ih, laterFields, fieldTail, stringChars]

theorem laterFields_cons (level : Nat) (field : String × Json)
    (fields : List (String × Json)) :
    laterFields level (field :: fields) =
      ',' :: (newline level ++
        '"' :: (fieldTail level field ++ laterFields level fields)) := by
  simp [laterFields]

theorem insertField_greatest {key : String} {value : Json}
    {fields : List (String × Json)}
    (hgreatest : ∀ other ∈ fields.map Prod.fst, other < key) :
    insertField key value fields = fields ++ [(key, value)] := by
  induction fields with
  | nil => rfl
  | cons field fields ih =>
      rw [List.map_cons, List.forall_mem_cons] at hgreatest
      have hlt : ¬ key < field.1 := String.lt_asymm hgreatest.1
      have hne : key ≠ field.1 := (String.ne_of_lt hgreatest.1).symm
      rw [insertField, if_neg hlt, if_neg hne, ih hgreatest.2]
      rfl

/-- One field is read, and what is left are the fields behind it. -/
theorem readFields_step {levels level : Nat} (bound : Nat)
    {field : String × Json} {isFirst : Bool} (read : List (String × Json))
    {text after : List Char} {place : Place}
    (hmore : Yields (hasField isFirst ⟨text, place⟩) true
      (fieldTail level field ++ after))
    (hfield : ReadsBack levels field.2)
    (hbound : (fieldTail level field).length ≤ bound)
    (hgreatest : ∀ other ∈ read.map Prod.fst, other < field.1) :
    ∃ later,
      readFields (bound + 1) (levels + 1) isFirst read ⟨text, place⟩ =
        readFields bound (levels + 1) false (read ++ [field])
          ⟨after, later⟩ := by
  obtain ⟨opened, hmore⟩ := hmore
  obtain ⟨named, hkey⟩ := readString_escaped field.1
    (':' :: ' ' :: (prettyChars level field.2 ++ after)) opened
  obtain ⟨next, hcolon⟩ :=
    readColon_colon (' ' :: (prettyChars level field.2 ++ after)) named
  have hlength : (prettyChars level field.2).length ≤ bound := by
    simp only [fieldTail, List.length_append, List.length_cons] at hbound
    omega
  obtain ⟨later, hvalue⟩ :=
    hfield level bound [' '] after next hlength (by simp [Cursor.isBlank])
  refine ⟨later, ?_⟩
  simp only [fieldTail, List.append_assoc, List.cons_append] at hmore
  rw [List.singleton_append] at hvalue
  rw [readFields, hmore]
  simp only [Except.ok_bind, if_true, hkey, hcolon, hvalue,
    insertField_greatest hgreatest]

theorem readFields_later {levels level bound : Nat}
    {fields : List (String × Json)} (read : List (String × Json))
    {blanks : List Char} (rest : List Char)
    (hbound : (laterFields level fields).length < bound)
    (hfields : ∀ field ∈ fields, ReadsBack levels field.2)
    (hkeys : ((read ++ fields).map Prod.fst).Pairwise (· < ·))
    (hblanks : ∀ b ∈ blanks, Cursor.isBlank b = true) (place : Place) :
    Yields
      (readFields bound (levels + 1) false read
        ⟨laterFields level fields ++ (blanks ++ '}' :: rest), place⟩)
      (.object (read ++ fields)) rest := by
  obtain ⟨bound, rfl⟩ : ∃ inner, bound = inner + 1 :=
    Nat.exists_eq_add_one.mpr (by omega)
  induction fields generalizing bound read place with
  | nil =>
      obtain ⟨later, hend⟩ := hasField_end hblanks rest place false
      refine ⟨later, ?_⟩
      simp only [laterFields, List.flatMap_nil, List.nil_append, readFields,
        hend]
      simp [Except.ok_bind, pure, Except.pure]
  | cons field fields ih =>
      rw [List.forall_mem_cons] at hfields
      rw [laterFields_cons] at hbound ⊢
      simp only [List.length_cons, List.length_append] at hbound
      have hgreatest : ∀ other ∈ read.map Prod.fst, other < field.1 := by
        rw [List.map_append, List.pairwise_append] at hkeys
        exact fun other hother =>
          hkeys.2.2 other hother field.1 (by simp)
      have hmore := hasField_next (isBlank_newline level)
        (fieldTail level field ++
          (laterFields level fields ++ (blanks ++ '}' :: rest))) place
      obtain ⟨later, hstep⟩ := readFields_step bound read hmore hfields.1
        (by omega) hgreatest
      obtain ⟨bound, rfl⟩ : ∃ inner, bound = inner + 1 :=
        Nat.exists_eq_add_one.mpr (by omega)
      have hrest := ih (read ++ [field]) hfields.2 (by simpa using hkeys)
        later bound (by omega)
      simpa [hstep] using hrest

theorem readsBack_object {levels : Nat} {fields : List (String × Json)}
    (hkeys : (fields.map Prod.fst).Pairwise (· < ·))
    (hfields : ∀ field ∈ fields, ReadsBack levels field.2) :
    ReadsBack (levels + 1) (.object fields) := by
  cases fields with
  | nil =>
      refine readsBack_of_head (fun _ => rfl) rfl
        fun level bound rest place hbound => ?_
      obtain ⟨bound, rfl⟩ : ∃ inner, bound = inner + 1 :=
        Nat.exists_eq_add_one.mpr hbound
      exact ⟨_, rfl⟩
  | cons field fields =>
      have htext : ∀ level, prettyChars level (.object (field :: fields)) =
          '{' :: (prettyFields (level + 1) (field :: fields) ++
            (newline level ++ ['}'])) := by
        intro level
        simp [prettyChars]
      refine readsBack_of_head htext rfl fun level bound rest place hbound => ?_
      rw [List.forall_mem_cons] at hfields
      rw [prettyFields_cons] at hbound ⊢
      simp only [List.length_append, List.length_cons] at hbound
      obtain ⟨bound, rfl⟩ : ∃ inner, bound = inner + 1 :=
        Nat.exists_eq_add_one.mpr (by omega)
      have hmore := hasField_first (isBlank_newline (level + 1))
        (fieldTail (level + 1) field ++
          (laterFields (level + 1) fields ++ (newline level ++ '}' :: rest)))
        (Cursor.Place.after place '{')
      obtain ⟨next, hstep⟩ := readFields_step bound [] hmore hfields.1
        (by omega) (by simp)
      have hlength : (laterFields (level + 1) fields).length < bound := by
        omega
      obtain ⟨later, hlater⟩ := readFields_later [field] rest hlength
        hfields.2 hkeys (isBlank_newline level) next
      refine ⟨later, ?_⟩
      rw [readValue, skipBlanks_none _ place rfl]
      simp only [Cursor.moveTo, List.append_assoc, List.cons_append,
        List.nil_append, hstep, hlater]

/-! ## Whole texts -/

theorem Readable.readsBack {levels : Nat} {json : Json}
    (hjson : Readable levels json) : ReadsBack levels json := by
  induction hjson with
  | null => exact readsBack_null _
  | bool => exact readsBack_bool _ _
  | string => exact readsBack_string _ _
  | array hitems ih =>
      exact readsBack_array fun item hitem => ⟨hitems item hitem, ih item hitem⟩
  | object hkeys _ ih => exact readsBack_object hkeys ih

theorem read_pretty {json : Json} (hjson : Readable 127 json) :
    read (json.pretty ++ "\n") = .ok json := by
  have htext : (json.pretty ++ "\n").toList = prettyChars 0 json ++ ['\n'] := by
    simp [pretty]
  have hbound : (prettyChars 0 json).length ≤
      2 * (prettyChars 0 json ++ ['\n']).length + 2 := by
    rw [List.length_append]
    omega
  obtain ⟨later, hread⟩ :=
    hjson.readsBack 0 _ [] ['\n'] ⟨1, 0⟩ hbound (by simp)
  rw [List.nil_append] at hread
  rw [read]
  simp only [htext, nestingLimit, Cursor.ofText, hread, Except.ok_bind]
  rfl

end Statecharts.Json
