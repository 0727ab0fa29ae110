import RowDrop.Decimal.Binary64

/-!
# How similar two words are

The Jaro similarity. Two equal characters match if they stand not too far apart; the similarity is
the mean of the matching share of each word and of the share of the matches that stand in the same
order in both. It is computed in binary floating point, with every step rounded, so a similarity
of seven tenths can lie on either side of the number nearest to seven tenths.
-/

namespace RowDrop.Text

/-- How far from its place a character may match. -/
def reach (first second : List Char) : Nat := max first.length second.length / 2 - 1

/-- Takes the first free place that holds a character, at places from `low` to below `high`. -/
def takePlace (c : Char) (low high : Nat) (place : Nat) :
    List (Char × Bool) → Option (List (Char × Bool))
  | [] => none
  | (other, taken) :: rest =>
    if low ≤ place ∧ place < high ∧ c = other ∧ !taken then some ((other, true) :: rest)
    else (takePlace c low high (place + 1) rest).map ((other, taken) :: ·)

/-- Matches the characters of the first word from left to right. Gives those that matched, and the
second word with the places that were taken. -/
def matchWith (reach : Nat) : (place : Nat) → List Char → List (Char × Bool) →
    List Char × List (Char × Bool)
  | _, [], second => ([], second)
  | place, c :: rest, second =>
    match takePlace c (place - reach) (place + reach + 1) 0 second with
    | some second => ((matchWith reach (place + 1) rest second).map (c :: ·) id)
    | none => matchWith reach (place + 1) rest second

/-- The similarity of two words, from zero to one. -/
def jaro (first second : List Char) : Binary64 :=
  if first = [] ∧ second = [] then .ofNat 1
  else
    let (matched, taken) :=
      matchWith (reach first second) 0 first (second.map fun c => (c, false))
    let matched' := (taken.filter (·.2)).map (·.1)
    let count := matched.length
    let moved := ((matched.zip matched').filter fun (a, b) => a ≠ b).length / 2
    if count = 0 then .zero
    else
      let share (part whole : Nat) : Binary64 := (Binary64.ofNat part).divide (.ofNat whole)
      (((share count first.length).add (share count second.length)).add
        (share (count - moved) count)).divide (.ofNat 3)

/-- Words that are at most this similar are taken for different ones: the number nearest to seven
tenths. -/
def similarityLimit : Binary64 := (Binary64.ofNat 7).divide (.ofNat 10)

/-- The one of some candidates whose word is most similar to the given word, the last of equals;
none if no word is similar enough. -/
def mostSimilar? {α : Type} (word : List Char) (candidates : List (List Char × α)) : Option α :=
  let best := candidates.foldl (fun (best : Option (Binary64 × α)) candidate =>
    let similarity := jaro word candidate.1
    if !similarityLimit.less similarity then best
    else
      match best with
      | some (other, _) => if similarity.less other then best else some (similarity, candidate.2)
      | none => some (similarity, candidate.2)) none
  best.map (·.2)

end RowDrop.Text
