import Statecharts.Signature.Parse
import Statecharts.Proofs.Resolution.Sweep

/-!
# The pieces of a signature

Angle brackets are counted in front of a character, and a comma separates two
arguments where the counts agree.  The reader carries the depth instead, stops
at the first character that does not belong to a signature or closes nothing,
and asks at the end whether everything is closed.
-/

namespace Statecharts.Signature

def SignatureChar (c : Char) : Prop :=
  Text.isLetter c ∨ Text.isDecimalDigit c ∨
    c ∈ ['_', '<', '>', ':', ' ', '&', '(', ')', ',']

/-- No template is closed before it is opened, and none stays open. -/
structure Balanced (text : List Char) : Prop where
  opened : ∀ before, before <+: text → before.count '>' ≤ before.count '<'
  closed : text.count '>' = text.count '<'

/-- The text cut at the commas that stand outside every template. -/
def topPieces (text : List Char) : List (List Char) :=
  ((text.inits.zip text).splitOnP fun (before, c) =>
    c = ',' && before.count '>' = before.count '<').map (·.map Prod.snd)

/-- What is wrong with the character at an index. -/
inductive CharFault (text : List Char) : Nat → SignatureError → Prop
  | invalid {index : Nat} {c : Char} (hchar : text[index]? = some c)
      (hinvalid : ¬ SignatureChar c) :
      CharFault text index (.invalidChar index c)
  | unopened {index : Nat} (hchar : text[index]? = some '>')
      (htop : (text.take index).count '>' = (text.take index).count '<') :
      CharFault text index (.unopenedTemplate index)

inductive EndFault (text : List Char) : Nat → SignatureError → Prop
  | unterminated (hopen : text.count '>' ≠ text.count '<') :
      EndFault text 0 .unterminatedTemplate

theorem isSignatureChar_iff (c : Char) :
    isSignatureChar c = true ↔ SignatureChar c := by
  simp [isSignatureChar, isPunctuation, SignatureChar, or_assoc]

/-! ## Depth -/

theorem depthAfter_eq_some_iff (c : Char) (depth inner : Nat) :
    depthAfter c depth = some inner ↔
      inner + [c].count '>' = depth + [c].count '<' := by
  unfold depthAfter
  split
  next hopen =>
    subst c
    simp [eq_comm]
  split
  next hclose =>
    subst c
    cases depth <;> simp [eq_comm]
  next hopen hclose =>
    simp [hopen, hclose, eq_comm]

theorem depthAfter_eq_none_iff (c : Char) (depth : Nat) :
    depthAfter c depth = none ↔ c = '>' ∧ depth = 0 := by
  unfold depthAfter
  split
  next hopen =>
    subst c
    simp
  split
  next hclose =>
    subst c
    cases depth <;> simp
  next hopen hclose =>
    simp [hclose]

def depthBehind (depth : Nat) (text : List Char) : Option Nat :=
  text.foldlM (fun depth c => depthAfter c depth) depth

@[simp] theorem depthBehind_nil (depth : Nat) :
    depthBehind depth [] = some depth := rfl

@[simp] theorem depthBehind_cons (depth : Nat) (c : Char) (text : List Char) :
    depthBehind depth (c :: text) =
      (depthAfter c depth).bind (depthBehind · text) := rfl

theorem depthBehind_append (depth : Nat) (text later : List Char) :
    depthBehind depth (text ++ later) =
      (depthBehind depth text).bind (depthBehind · later) :=
  List.foldlM_append

theorem depthBehind_eq_some_iff (depth inner : Nat) (text : List Char) :
    depthBehind depth text = some inner ↔
      (∀ before, before <+: text →
        before.count '>' ≤ depth + before.count '<') ∧
      inner + text.count '>' = depth + text.count '<' := by
  induction text generalizing depth with
  | nil =>
      simp [eq_comm]
  | cons c text ih =>
      have hcons : ∀ (d : Char) (before : List Char),
          (c :: before).count d = [c].count d + before.count d := by
        intro d before
        rw [← List.singleton_append, List.count_append]
      rw [depthBehind_cons, hcons _ text, hcons _ text]
      cases hafter : depthAfter c depth with
      | none =>
          obtain ⟨rfl, rfl⟩ := (depthAfter_eq_none_iff c depth).mp hafter
          simp only [Option.bind_none, reduceCtorEq, false_iff, not_and]
          intro hopened
          have hfirst := hopened ['>'] (by simp)
          simp at hfirst
      | some next =>
          have hnext := (depthAfter_eq_some_iff c depth next).mp hafter
          rw [Option.bind_some, ih]
          refine and_congr ⟨fun hopened before hbefore => ?_,
            fun hopened before hbefore => ?_⟩ (by omega)
          · obtain rfl | ⟨tail, rfl, htail⟩ := List.prefix_cons_iff.mp hbefore
            · simp
            · have htail := hopened tail htail
              rw [hcons _ tail, hcons _ tail]
              omega
          · have hprefix := hopened (c :: before)
              (List.cons_prefix_cons.mpr ⟨rfl, hbefore⟩)
            rw [hcons _ before, hcons _ before] at hprefix
            omega

theorem balanced_iff (text : List Char) :
    Balanced text ↔ depthBehind 0 text = some 0 := by
  rw [depthBehind_eq_some_iff]
  constructor
  · intro hbalanced
    simpa using And.intro hbalanced.opened hbalanced.closed
  · rintro ⟨hopened, hclosed⟩
    exact ⟨by simpa using hopened, by simpa using hclosed⟩

/-! ## Cutting -/

/-- The pieces of a text behind another one. -/
def piecesBehind (before rest : List Char) : List (List Char) :=
  (((rest.inits.map (before ++ ·)).zip rest).splitOnP fun (before, c) =>
    c = ',' && before.count '>' = before.count '<').map (·.map Prod.snd)

theorem piecesBehind_nil (before : List Char) :
    piecesBehind before [] = [[]] := by
  simp [piecesBehind]

theorem piecesBehind_cons (before : List Char) (c : Char) (rest : List Char) :
    piecesBehind before (c :: rest) =
      if c = ',' ∧ before.count '>' = before.count '<' then
        [] :: piecesBehind (before ++ [c]) rest
      else
        (piecesBehind (before ++ [c]) rest).modifyHead (c :: ·) := by
  have hmarks : ((c :: rest).inits.map (before ++ ·)).zip (c :: rest) =
      (before, c) :: (rest.inits.map (before ++ [c] ++ ·)).zip rest := by
    simp [Function.comp_def]
  unfold piecesBehind
  rw [hmarks, List.splitOnP_cons_eq_if_modifyHead]
  by_cases htop : c = ',' ∧ before.count '>' = before.count '<'
  · simp [htop]
  · cases List.splitOnP _ (((rest.inits.map (before ++ [c] ++ ·)).zip rest)) <;>
      simp [htop]

theorem piecesBehind_nil_left (text : List Char) :
    piecesBehind [] text = topPieces text := by
  simp [piecesBehind, topPieces]

def depthStep (depth index : Nat) (c : Char) : Except SignatureError Nat :=
  if isSignatureChar c then
    match depthAfter c depth with
    | none => .error (.unopenedTemplate index)
    | some inner => .ok inner
  else .error (.invalidChar index c)

def finish (all : List (List Char)) (depth : Nat) :
    Except SignatureError (List (List Char)) :=
  if depth = 0 then .ok all else .error .unterminatedTemplate

theorem bind_finish_map (run : Except SignatureError Nat)
    (all : List (List Char)) (f : List (List Char) → List (List Char)) :
    (run >>= finish (f all)) = (run >>= finish all).map f := by
  cases run with
  | error => rfl
  | ok depth =>
      simp only [Except.ok_bind, finish]
      split <;> rfl

/-- Cutting is counting through to the end, and then taking the pieces. -/
theorem cut_eq_sweep (before rest : List Char) (depth : Nat)
    (hdepth : depth + before.count '>' = before.count '<') :
    (cut before.length depth rest).map (fun (piece, later) => piece :: later) =
      (sweep depthStep depth before.length rest >>=
        finish (piecesBehind before rest)) := by
  induction rest generalizing before depth with
  | nil =>
      simp only [cut, sweep, Except.ok_bind, finish, piecesBehind_nil]
      split <;> rfl
  | cons c rest ih =>
      have hlength : (before ++ [c]).length = before.length + 1 := by simp
      rw [cut, sweep, piecesBehind_cons]
      by_cases hcomma : c = ',' ∧ depth = 0
      · obtain ⟨rfl, rfl⟩ := hcomma
        have htop : before.count '>' = before.count '<' := by omega
        have hstep : depthStep 0 before.length ',' = .ok 0 := by
          simp [depthStep, isSignatureChar, isPunctuation, depthAfter]
        have hnext := ih (before ++ [',']) 0 (by simpa using htop)
        rw [hlength] at hnext
        rw [if_pos ⟨rfl, rfl⟩, if_pos ⟨rfl, htop⟩, hstep, Except.ok_bind,
          bind_finish_map _ _ ([] :: ·), ← hnext]
        cases cut (before.length + 1) 0 rest <;> rfl
      · have htop : ¬ (c = ',' ∧ before.count '>' = before.count '<') :=
          fun htop => hcomma ⟨htop.1, by omega⟩
        rw [if_neg hcomma, if_neg htop, depthStep]
        split
        next hchar =>
          cases hafter : depthAfter c depth with
          | none => rfl
          | some inner =>
              have hinner := (depthAfter_eq_some_iff c depth inner).mp hafter
              have hnext := ih (before ++ [c]) inner (by
                rw [List.count_append, List.count_append]
                omega)
              rw [hlength] at hnext
              simp only [Except.ok_bind]
              rw [bind_finish_map _ _ (·.modifyHead (c :: ·)), ← hnext]
              cases cut (before.length + 1) inner rest <;> rfl
        next hchar => rfl

theorem pieces_eq_sweep (text : List Char) :
    pieces text = (sweep depthStep 0 0 text >>= finish (topPieces text)) := by
  have hcut := cut_eq_sweep [] text 0 rfl
  rwa [piecesBehind_nil_left] at hcut

/-! ## Faults -/

def DepthAt (text : List Char) (index depth : Nat) : Prop :=
  depth + (text.take index).count '>' = (text.take index).count '<'

theorem depth_rule (text : List Char) :
    StepRule depthStep text (CharFault text) (DepthAt text) where
  bound := by
    intro index error hfault
    rcases hfault with ⟨hchar, -⟩ | ⟨hchar, -⟩ <;>
      exact (List.getElem?_eq_some_iff.mp hchar).1
  fails_iff := by
    intro index c depth hchar hdepth error
    rw [DepthAt] at hdepth
    unfold depthStep
    constructor
    · intro herror
      split at herror
      next hvalid =>
        split at herror
        next hafter =>
          obtain ⟨rfl, rfl⟩ := (depthAfter_eq_none_iff c depth).mp hafter
          cases herror
          exact .unopened hchar (by omega)
        next => cases herror
      next hinvalid =>
        cases herror
        exact .invalid hchar (by rwa [← isSignatureChar_iff])
    · intro hfault
      rcases hfault with ⟨hchar', hinvalid⟩ | ⟨hchar', htop⟩ <;>
        rw [hchar] at hchar' <;> cases hchar'
      · rw [← isSignatureChar_iff] at hinvalid
        rw [if_neg hinvalid]
      · obtain rfl : depth = 0 := by omega
        rfl
  keeps := by
    intro index c depth next hchar hdepth hnext
    rw [DepthAt] at hdepth ⊢
    unfold depthStep at hnext
    split at hnext
    next =>
      split at hnext
      next => cases hnext
      next hafter =>
        cases hnext
        have hafter := (depthAfter_eq_some_iff c depth next).mp hafter
        simp only [List.take_add_one, hchar, Option.toList_some,
          List.count_append]
        omega
    next => cases hnext

theorem pieces_error_iff (text : List Char) (error : SignatureError) :
    pieces text = .error error ↔
      FirstFaultOf [CharFault text, EndFault text] error := by
  have hstart : DepthAt text 0 0 := rfl
  rw [pieces_eq_sweep]
  refine bind_error_iff_firstFaultOf [CharFault text] [EndFault text] ?_ ?_ error
  · intro other
    rw [firstFaultOf_singleton_iff]
    exact (depth_rule text).sweep_error_iff hstart other
  · intro depth hrun other
    have hdepth := ((depth_rule text).sweep_ok hstart hrun).1
    rw [DepthAt, List.take_length] at hdepth
    rw [firstFaultOf_singleton_iff, finish]
    constructor
    · intro herror
      split at herror
      next => cases herror
      next hopen =>
        cases herror
        exact ⟨0, .unterminated (by omega), by simp⟩
    · rintro ⟨index, ⟨hopen⟩, -⟩
      rw [if_neg (by omega)]

theorem faultless_charFault_iff (text : List Char) :
    Faultless (CharFault text) ↔
      (∀ c ∈ text, SignatureChar c) ∧
      ∀ before, before <+: text → before.count '>' ≤ before.count '<' := by
  constructor
  · intro hfaultless
    constructor
    · intro c hc
      obtain ⟨index, hindex⟩ := List.mem_iff_getElem?.mp hc
      by_contra hinvalid
      exact hfaultless index _ (.invalid hindex hinvalid)
    · intro before hbefore
      induction before using List.reverseRecOn with
      | nil => simp
      | append_singleton before c ih =>
          have hle := ih ((List.prefix_append before [c]).trans hbefore)
          obtain ⟨later, rfl⟩ := hbefore
          by_cases hclose : c = '>'
          · subst c
            have htop : before.count '>' ≠ before.count '<' := by
              intro htop
              refine hfaultless before.length _ (.unopened ?_ ?_)
              · simp
              · simpa using htop
            simp
            omega
          · simp [hclose]
            omega
  · rintro ⟨hchars, hopened⟩ index error hfault
    cases hfault with
    | invalid hchar hinvalid =>
        exact hinvalid (hchars _ (List.mem_of_getElem? hchar))
    | unopened hchar htop =>
        have hprefix := hopened _ (List.take_prefix (index + 1) text)
        simp [List.take_add_one, hchar] at hprefix
        omega

theorem faultless_endFault_iff (text : List Char) :
    Faultless (EndFault text) ↔ text.count '>' = text.count '<' := by
  constructor
  · intro hfaultless
    by_contra hopen
    exact hfaultless 0 _ (.unterminated hopen)
  · rintro hclosed index error ⟨hopen⟩
    exact hopen hclosed

theorem pieces_ok {text : List Char} {all : List (List Char)}
    (hpieces : pieces text = .ok all) :
    all = topPieces text ∧ (∀ c ∈ text, SignatureChar c) ∧ Balanced text := by
  have hfaultless : ∀ Fault ∈ [CharFault text, EndFault text],
      Faultless Fault :=
    (exists_ok_iff_faultless (pieces_error_iff text)).mp ⟨all, hpieces⟩
  obtain ⟨hchars, hopened⟩ :=
    (faultless_charFault_iff text).mp (hfaultless _ (by simp))
  have hclosed :=
    (faultless_endFault_iff text).mp (hfaultless _ (by simp))
  refine ⟨?_, hchars, hopened, hclosed⟩
  rw [pieces_eq_sweep] at hpieces
  obtain ⟨depth, -, hfinish⟩ := Except.bind_eq_ok_iff.mp hpieces
  unfold finish at hfinish
  split at hfinish
  next => cases hfinish; rfl
  next => cases hfinish

/-! ## Texts that are one piece -/

/-- A text that is cut nowhere and is closed at its end, when so many templates
are open in front of it. -/
inductive Whole : Nat → List Char → Prop
  | nil : Whole 0 []
  | cons {c : Char} {depth inner : Nat} {text : List Char}
      (hinside : ¬ (c = ',' ∧ depth = 0)) (hchar : isSignatureChar c = true)
      (hafter : depthAfter c depth = some inner) (hrest : Whole inner text) :
      Whole depth (c :: text)

theorem whole_of_cut {index depth : Nat} {text piece : List Char}
    {later : List (List Char)}
    (hcut : cut index depth text = .ok (piece, later)) :
    Whole depth piece ∧ ∀ other ∈ later, Whole 0 other := by
  induction text generalizing index depth piece later with
  | nil =>
      rw [cut] at hcut
      split at hcut
      next hdepth =>
        cases hcut
        exact ⟨hdepth ▸ .nil, by simp⟩
      next => cases hcut
  | cons c text ih =>
      rw [cut] at hcut
      split at hcut
      next htop =>
        cases hrest : cut (index + 1) 0 text with
        | error => simp [hrest, Except.map] at hcut
        | ok rest =>
            obtain ⟨next, others⟩ := rest
            obtain ⟨rfl, rfl⟩ : [] = piece ∧ next :: others = later := by
              simpa [hrest, Except.map] using hcut
            exact ⟨htop.2 ▸ .nil, List.forall_mem_cons.mpr (ih hrest)⟩
      next hinside =>
        split at hcut
        next hchar =>
          cases hafter : depthAfter c depth with
          | none => simp [hafter] at hcut
          | some inner =>
              cases hrest : cut (index + 1) inner text with
              | error => simp [hafter, hrest, Except.map] at hcut
              | ok rest =>
                  obtain ⟨front, others⟩ := rest
                  obtain ⟨rfl, rfl⟩ : c :: front = piece ∧ others = later := by
                    simpa [hafter, hrest, Except.map] using hcut
                  obtain ⟨hfront, hothers⟩ := ih hrest
                  exact ⟨.cons hinside hchar hafter hfront, hothers⟩
        next => cases hcut

theorem Whole.depthBehind_eq {depth : Nat} {text : List Char}
    (hwhole : Whole depth text) : depthBehind depth text = some 0 := by
  induction hwhole with
  | nil => rfl
  | cons _ _ hafter _ ih => rw [depthBehind_cons, hafter, Option.bind_some, ih]

theorem pieces_whole {text : List Char} {all : List (List Char)}
    (hpieces : pieces text = .ok all) : ∀ piece ∈ all, Whole 0 piece := by
  unfold pieces at hpieces
  cases hcut : cut 0 0 text with
  | error => simp [hcut, Except.map] at hpieces
  | ok cutting =>
      obtain ⟨piece, later⟩ := cutting
      obtain rfl : piece :: later = all := by
        simpa [hcut, Except.map] using hpieces
      exact List.forall_mem_cons.mpr (whole_of_cut hcut)

theorem pieces_balanced {text : List Char} {all : List (List Char)}
    (hpieces : pieces text = .ok all) : ∀ piece ∈ all, Balanced piece := by
  intro piece hpiece
  rw [balanced_iff]
  exact (pieces_whole hpieces piece hpiece).depthBehind_eq

end Statecharts.Signature
