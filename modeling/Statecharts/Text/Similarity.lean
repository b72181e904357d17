/-!
# Similar words

Two words are compared by the letters that they have in common at about the same place, and by how
many of these stand in another order.  The measure is the mean of three shares: of the first word
that is matched, of the second word that is matched, and of the matches that are in order.
-/

namespace Statecharts.Text

/-- A number from zero to one. -/
structure Share where
  part : Nat
  whole : Nat
  deriving DecidableEq, Repr

namespace Share

def le (a b : Share) : Bool :=
  a.part * b.whole ≤ b.part * a.whole

end Share

/-- Letters match no farther apart than half of the longer word, less one place. -/
def matchRange (a b : List Char) : Nat :=
  max a.length b.length / 2 - 1

/-- The places in the second word that match those of the first one, each used once. -/
def matchedPlaces (a b : List Char) : List (Char × Nat) :=
  let range := matchRange a b
  (a.zipIdx.foldl (fun found (c, i) =>
    let free := b.zipIdx.find? fun (d, j) =>
      c = d && i - range ≤ j && j ≤ i + range && !found.any (·.2 = j)
    match free with
    | some (_, j) => (c, j) :: found
    | none => found) []).reverse

/-- How many matched letters stand in another order, in pairs. -/
def transpositions (b : List Char) (found : List (Char × Nat)) : Nat :=
  let ordered := (b.zipIdx.filter fun (_, j) => found.any (·.2 = j)).map Prod.fst
  ((found.map Prod.fst).zip ordered).countP (fun (c, d) => c ≠ d) / 2

def similarity (first second : String) : Share :=
  let a := first.toList
  let b := second.toList
  let found := matchedPlaces a b
  let m := found.length
  if a.isEmpty && b.isEmpty then ⟨1, 1⟩
  else if m = 0 then ⟨0, 1⟩
  else
    let inOrder := m - transpositions b found
    ⟨m * m * b.length + m * m * a.length + inOrder * a.length * b.length,
      3 * a.length * b.length * m⟩

/-- Words are similar from seven tenths on. -/
def threshold : Share := ⟨7, 10⟩

/-- The names that are similar to a word, the most similar one last. -/
def similarNames (word : String) (names : List String) : List String :=
  let scored := names.map fun name => (similarity word name, name)
  let close := scored.filter fun (share, _) => threshold.le share
  (close.mergeSort fun a b => a.1.le b.1).map Prod.snd

def mostSimilar? (word : String) (names : List String) : Option String :=
  (similarNames word names).getLast?

end Statecharts.Text
