import GrafanaInstall.Floating

/-!
# Similar words

The Jaro similarity of two words. Letters match if they are equal and not far apart. Matched
letters that stand in another order count for half.
-/

namespace GrafanaInstall.Text

/-- The position, in a list of letters not yet taken, of the first that is equal to a letter and
lies in a window. -/
def matchIn (letter : Char) (low high : Nat) (taken : List Nat) (word : List Char) : Option Nat :=
  (List.range word.length).find? fun j =>
    low ≤ j && j < high && !taken.contains j && word[j]? = some letter

/-- Pairs of positions that match, by position in the first word. -/
def matching (a b : List Char) : List (Nat × Nat) :=
  let reach := max a.length b.length / 2 - 1
  (a.zipIdx.foldl (fun (pairs : List (Nat × Nat)) (letter, i) =>
    match matchIn letter (i - reach) (i + reach + 1) (pairs.map Prod.snd) b with
    | some j => pairs ++ [(i, j)]
    | none => pairs) [])

/-- From zero for words without a common letter up to one for equal words. -/
def similarity (a b : String) : Floating :=
  let a := a.toList
  let b := b.toList
  let pairs := matching a b
  let count := pairs.length
  if count = 0 then 0
  else
    let left := pairs.map fun (i, _) => a[i]?
    let right := ((List.range b.length).filter ((pairs.map Prod.snd).contains ·)).map (b[·]?)
    let moved := ((left.zip right).countP fun (x, y) => x ≠ y) / 2
    let share (part whole : Nat) := Floating.quotient (.ofNat part) (.ofNat whole)
    let shares := Floating.sum
      (Floating.sum (share count a.length) (share count b.length)) (share (count - moved) count)
    Floating.quotient shares (.ofNat 3)

def threshold : Floating := Floating.quotient (.ofNat 7) (.ofNat 10)

/-- The word most similar to a text, if the similarity is above the threshold. Of equals the last
counts. -/
def mostSimilar? (text : String) (words : List String) : Option String :=
  let near := (words.map fun word => (similarity text word, word)).filter (threshold < ·.1)
  (near.foldl (fun (best : Option (Floating × String)) (rank, word) =>
    match best with
    | some (top, _) => if rank < top then best else some (rank, word)
    | none => some (rank, word)) none).map Prod.snd

end GrafanaInstall.Text
