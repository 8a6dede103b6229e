import Mathlib.Data.List.TakeWhile
import RunnerCloud.Text.Blank

/-!
Contract: what trimming leaves of a text.

Owns:
- `TrimsTo`, which characters are what is left of others when both ends in a class are cut off;
- `trimsTo_trimmedChars`: trimming leaves such characters.

Does not own: which characters are blank.
-/

namespace RunnerCloud.Text

/-- Of `chars` only ends in the class `cut` are missing, and `core` has no such ends. -/
structure TrimsTo (cut : CodePoint → Bool) (chars core : List CodePoint) : Prop where
  parts : ∃ before after, chars = before ++ core ++ after ∧
    (∀ c ∈ before, cut c = true) ∧ ∀ c ∈ after, cut c = true
  head : ∀ c, core.head? = some c → cut c = false
  last : ∀ c, core.getLast? = some c → cut c = false

theorem head?_dropWhile {cut : CodePoint → Bool} (chars : List CodePoint) {c : CodePoint}
    (starts : (chars.dropWhile cut).head? = some c) : cut c = false := by
  have stops := List.head?_dropWhile_not cut chars
  rw [starts] at stops
  exact stops

theorem trimsTo_trimmedChars (cut : CodePoint → Bool) (chars : List CodePoint) :
    TrimsTo cut chars (trimmedChars cut chars) := by
  -- First the front is cut off, and then, from the other side, the back of what is left.
  let front := chars.takeWhile cut
  let rest := chars.dropWhile cut
  let back := (rest.reverse.takeWhile cut).reverse
  have whole : chars = front ++ rest := List.takeWhile_append_dropWhile.symm
  have left : rest = trimmedChars cut chars ++ back := by
    show rest = (rest.reverse.dropWhile cut).reverse ++ (rest.reverse.takeWhile cut).reverse
    rw [← List.reverse_append, List.takeWhile_append_dropWhile, List.reverse_reverse]
  refine ⟨⟨front, back, ?_, fun c => List.mem_takeWhile_imp, fun c member => ?_⟩, ?_, ?_⟩
  · rw [List.append_assoc, ← left]
    exact whole
  · exact List.mem_takeWhile_imp (List.mem_reverse.1 member)
  · intro c starts
    refine head?_dropWhile chars ?_
    show rest.head? = some c
    rw [left, List.head?_append, starts, Option.some_or]
  · intro c ends
    refine head?_dropWhile rest.reverse ?_
    rw [← List.getLast?_reverse]
    exact ends

end RunnerCloud.Text
