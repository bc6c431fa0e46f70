/-!
# Splitting a text at a character

* `split sep cs`: the stretches of `cs` between the occurrences of `sep`, one more than there
  are occurrences;
* `join sep pieces`: the pieces with `sep` between them;
* `cutLast sep as`: what stands ahead of the last `sep`, and what behind it.
-/

namespace ReactBridge.Text

def split (sep : Char) : List Char → List (List Char)
  | [] => [[]]
  | c :: cs =>
    if c = sep then [] :: split sep cs
    else
      match split sep cs with
      | piece :: pieces => (c :: piece) :: pieces
      | [] => [[c]]

def join (sep : Char) : List (List Char) → List Char
  | [] => []
  | [piece] => piece
  | piece :: next :: pieces => piece ++ sep :: join sep (next :: pieces)

/-- What stands ahead of the last `sep` and what behind it, if anything stands ahead of it. -/
def cutLast {α : Type} [DecidableEq α] (sep : α) (as : List α) : Option (List α × List α) :=
  match as.reverse.dropWhile (· ≠ sep) with
  | _ :: a :: rest => some ((a :: rest).reverse, (as.reverse.takeWhile (· ≠ sep)).reverse)
  | _ => none

theorem split_ne_nil (sep : Char) (cs : List Char) : split sep cs ≠ [] := by
  cases cs with
  | nil => simp [split]
  | cons c cs =>
    unfold split
    split
    · simp
    · split <;> simp

theorem join_cons_of_ne_nil (sep : Char) (piece : List Char) {pieces : List (List Char)}
    (h : pieces ≠ []) : join sep (piece :: pieces) = piece ++ sep :: join sep pieces := by
  cases pieces with
  | nil => exact absurd rfl h
  | cons next pieces => rfl

/-- Splitting loses nothing but the separators. -/
theorem join_split (sep : Char) (cs : List Char) : join sep (split sep cs) = cs := by
  induction cs with
  | nil => rfl
  | cons c cs ih =>
    unfold split
    split
    · next h => rw [join_cons_of_ne_nil sep [] (split_ne_nil sep cs), ih, h]; rfl
    · split
      · next piece pieces h =>
        rw [h] at ih
        cases pieces with
        | nil => simpa [join] using ih
        | cons next pieces => simpa [join] using ih
      · next h => exact absurd h (split_ne_nil sep cs)

end ReactBridge.Text
