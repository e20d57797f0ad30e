import HardwareIndex.Text.Canonical.CombiningClass
import HardwareIndex.Text.Canonical.Composite
import HardwareIndex.Text.Canonical.Equivalent
import HardwareIndex.Text.Canonical.Hangul

/-!
# Canonical text

Of the ways in which a text can be written with the same meaning, one is the
canonical form (Normalization Form C): every character is taken apart into a
base and marks, marks are put into the order of their classes, and what has a
composite is put together again. `canonical` is that form.
-/

namespace HardwareIndex.Text

/-- Most characters that are taken off one composite. -/
def maxParts : Nat := 3

/-- A composite as its first base and all that is added to it, with at most as many
    additions as given. -/
def takeApart : Nat → Char → List Char
  | 0, c => [c]
  | n + 1, c =>
    match (Hangul.split? c).or (split? c) with
    | some (base, added) => takeApart n base ++ [added]
    | none => [c]

/-- A character in its parts. -/
def parts (c : Char) : List Char :=
  ((spelling? c).getD [c]).flatMap (takeApart maxParts)

/-- Put a character before others: a mark goes after the marks of lower classes. -/
def place (c : Char) : List Char → List Char
  | [] => [c]
  | d :: rest =>
    if 0 < combiningClass d ∧ combiningClass d < combiningClass c then d :: place c rest
    else c :: d :: rest

/-- The parts of a text, with marks in the order of their classes. -/
def decomposed (cs : List Char) : List Char :=
  (cs.flatMap parts).foldr place []

/-- What has been put together: characters that are done, in reverse; then a base that
    may still grow, with the marks after it, in reverse, that did not join it. -/
structure Composer where
  done : List Char
  base : Option Char
  marks : List Char

namespace Composer

/-- Everything so far, in reverse. -/
def all (s : Composer) : List Char :=
  s.marks ++ s.base.toList ++ s.done

/-- Take one more character. It joins the base unless a mark of its class or of a higher
    one stands between them. -/
def take (s : Composer) (c : Char) : Composer :=
  let stopped := s.marks.head?.any fun m => combiningClass c ≤ combiningClass m
  let whole := if stopped then none
    else s.base.bind fun base => (Hangul.join? base c).or (compose? base c)
  match whole with
  | some whole => { s with base := some whole }
  | none =>
    if combiningClass c = 0 then { done := s.all, base := some c, marks := [] }
    else { s with marks := c :: s.marks }

end Composer

/-- The canonical form of a text. -/
def canonical (cs : List Char) : List Char :=
  ((decomposed cs).foldl Composer.take ⟨[], none, []⟩).all.reverse

theorem place_perm (c : Char) (cs : List Char) : (place c cs).Perm (c :: cs) := by
  induction cs with
  | nil => exact .refl _
  | cons d rest ih =>
    unfold place
    split
    · exact (ih.cons d).trans (.swap c d rest)
    · exact .refl _

/-- Putting marks in order loses none and adds none. -/
theorem decomposed_perm (cs : List Char) : (decomposed cs).Perm (cs.flatMap parts) := by
  unfold decomposed
  induction cs.flatMap parts with
  | nil => exact .refl _
  | cons c rest ih => exact (place_perm c _).trans (ih.cons c)

end HardwareIndex.Text
