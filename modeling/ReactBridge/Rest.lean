/-!
# What a reader leaves of its input

A reader takes a list and returns, beside its result, the end of the list at which it stopped.

* `Rest xs`: an end of `xs`;
* `Rest.all`, `Rest.drop`, `Rest.dropWhile`, `Rest.skip?`: the ends that a list has by itself;
* `Rest.behind`, `Rest.within`: an end of a list seen as an end of a longer one;
* `Rest.length_le`: no end is longer than the list, so a reader that has read one item can read
  on by recursion;
* `Onwards P xs`: what holds of a list and of all its ends, by which readers that call each other
  are followed.
-/

namespace ReactBridge

structure Rest {α : Type} (xs : List α) where
  items : List α
  isSuffix : items <:+ xs
deriving DecidableEq

namespace Rest

variable {α : Type} {xs : List α}

def all (xs : List α) : Rest xs :=
  ⟨xs, List.suffix_refl xs⟩

/-- An end of a list is one of the list with `x` in front. -/
def behind (x : α) (rest : Rest xs) : Rest (x :: xs) :=
  ⟨rest.items, rest.isSuffix.trans (List.suffix_cons x xs)⟩

/-- What is left behind the longest start of a list whose items all satisfy `p`. -/
def dropWhile (p : α → Bool) (xs : List α) : Rest xs :=
  ⟨xs.dropWhile p, List.dropWhile_suffix p⟩

/-- What is left behind the first `n` items of a list. -/
def drop (n : Nat) (xs : List α) : Rest xs :=
  ⟨xs.drop n, List.drop_suffix n xs⟩

def skip? [DecidableEq α] (x : α) :
    (xs : List α) → Option { rest : Rest xs // rest.items.length < xs.length }
  | [] => none
  | y :: ys => if y = x then some ⟨⟨ys, List.suffix_cons y ys⟩, Nat.lt_succ_self _⟩ else none

def within (rest : Rest xs) (inner : Rest rest.items) : Rest xs :=
  ⟨inner.items, inner.isSuffix.trans rest.isSuffix⟩

@[simp, grind =]
theorem items_all (xs : List α) : (all xs).items = xs := rfl

@[simp, grind =]
theorem items_behind (x : α) (rest : Rest xs) : (rest.behind x).items = rest.items := rfl

@[simp, grind =]
theorem items_within (rest : Rest xs) (inner : Rest rest.items) :
    (rest.within inner).items = inner.items := rfl

@[ext]
theorem ext {a b : Rest xs} (h : a.items = b.items) : a = b := by
  cases a; cases b; simp_all

theorem length_le (rest : Rest xs) : rest.items.length ≤ xs.length :=
  rest.isSuffix.length_le

grind_pattern length_le => rest.items

end Rest

/-- The list and all its ends have the property. -/
def Onwards {α : Type} (P : List α → Prop) (xs : List α) : Prop :=
  ∀ ys, ys <:+ xs → P ys

namespace Onwards

variable {α : Type} {P : List α → Prop} {x : α} {xs : List α}

theorem here (h : Onwards P xs) : P xs :=
  h xs (List.suffix_refl xs)

theorem of_suffix (h : Onwards P xs) {ys : List α} (hys : ys <:+ xs) : Onwards P ys :=
  fun zs hzs => h zs (hzs.trans hys)

theorem rest (h : Onwards P xs) (rest : Rest xs) : Onwards P rest.items :=
  h.of_suffix rest.isSuffix

theorem behind (h : Onwards P (x :: xs)) : Onwards P xs :=
  h.of_suffix (List.suffix_cons x xs)

/-- What a list has whenever all ends behind its first item have it, every list has. -/
theorem of_cons (hnil : P []) (hcons : ∀ x xs, Onwards P xs → P (x :: xs)) (xs : List α) :
    Onwards P xs := by
  induction xs with
  | nil =>
    intro ys hys
    rwa [List.eq_nil_of_suffix_nil hys]
  | cons x xs ih =>
    intro ys hys
    rcases List.suffix_cons_iff.1 hys with rfl | hys
    · exact hcons x xs ih
    · exact ih ys hys

end Onwards

end ReactBridge
