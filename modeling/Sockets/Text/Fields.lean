/-!
# Splitting text

Text is cut at separators: at every occurrence of one character, at the first occurrence of a
character or of a marker, and into the words between blanks.

## Main definitions

* `Sockets.Text.splitAll` — the pieces between all occurrences of a character.
* `Sockets.Text.cut` — the text before and after the first occurrence of a character.
* `Sockets.Text.cutAt` — the text before and after the first occurrence of a marker.
* `Sockets.Text.words` — the maximal runs of characters outside a class.
* `Sockets.Text.unbracket` — text without one pair of enclosing square brackets.

## Main results

* `Sockets.Text.splitAll_append_cons` — splitting a piece, a separator and a rest splits off
  the piece.
* `Sockets.Text.unbracket_bracketed` — exactly one pair of brackets is removed.
-/

set_option autoImplicit false

namespace Sockets

namespace Text

/-- The pieces of a text between all occurrences of `sep`; a text without `sep` is one piece. -/
def splitAll (sep : Char) : List Char → List (List Char)
  | [] => [[]]
  | c :: cs =>
    if c = sep then [] :: splitAll sep cs
    else match splitAll sep cs with
      | [] => [[c]]
      | p :: ps => (c :: p) :: ps

/-- A text always has a first piece. -/
theorem splitAll_ne_nil (sep : Char) (cs : List Char) : splitAll sep cs ≠ [] := by
  cases cs with
  | nil => simp [splitAll]
  | cons c cs =>
    unfold splitAll
    split
    · simp
    · split <;> simp

/-- A text without the separator is its only piece. -/
theorem splitAll_of_notMem {sep : Char} {cs : List Char} (h : sep ∉ cs) :
    splitAll sep cs = [cs] := by
  induction cs with
  | nil => rfl
  | cons c cs ih =>
    simp only [List.mem_cons, not_or] at h
    simp [splitAll, ih h.2, Ne.symm h.1]

/-- A piece followed by a separator is split off. -/
theorem splitAll_append_cons {sep : Char} {p : List Char} (h : sep ∉ p) (rest : List Char) :
    splitAll sep (p ++ sep :: rest) = p :: splitAll sep rest := by
  induction p with
  | nil => simp [splitAll]
  | cons c p ih =>
    simp only [List.mem_cons, not_or] at h
    simp [splitAll, ih h.2, Ne.symm h.1]

/-- The text before and after the first occurrence of `sep`, if it occurs. -/
def cut (sep : Char) : List Char → Option (List Char × List Char)
  | [] => none
  | c :: cs =>
    if c = sep then some ([], cs)
    else (cut sep cs).map fun (before, after) => (c :: before, after)

/-- A text is cut exactly where a separator follows text without one. -/
theorem cut_append_cons {sep : Char} {p : List Char} (h : sep ∉ p) (rest : List Char) :
    cut sep (p ++ sep :: rest) = some (p, rest) := by
  induction p with
  | nil => simp [cut]
  | cons c p ih =>
    simp only [List.mem_cons, not_or] at h
    simp [cut, ih h.2, Ne.symm h.1]

/-- A text without the separator is not cut. -/
theorem cut_of_notMem {sep : Char} {cs : List Char} (h : sep ∉ cs) : cut sep cs = none := by
  induction cs with
  | nil => rfl
  | cons c cs ih =>
    simp only [List.mem_cons, not_or] at h
    simp [cut, ih h.2, Ne.symm h.1]

/-- The text before and after the first occurrence of `marker`, if it occurs. -/
def cutAt (marker : List Char) : List Char → Option (List Char × List Char)
  | [] => if marker = [] then some ([], []) else none
  | c :: cs =>
    if marker.isPrefixOf (c :: cs) then some ([], (c :: cs).drop marker.length)
    else (cutAt marker cs).map fun (before, after) => (c :: before, after)

/-- The maximal runs of characters for which `blank` does not hold, in order; `word` is the run
read so far. -/
def wordsFrom (blank : Char → Bool) (word : List Char) : List Char → List (List Char)
  | [] => if word = [] then [] else [word]
  | c :: cs =>
    if blank c then (if word = [] then wordsFrom blank [] cs else word :: wordsFrom blank [] cs)
    else wordsFrom blank (word ++ [c]) cs

/-- The words of a text: the maximal runs of characters for which `blank` does not hold. -/
def words (blank : Char → Bool) (cs : List Char) : List (List Char) := wordsFrom blank [] cs

/-- Text inside one pair of enclosing square brackets. -/
def inBrackets? : List Char → Option (List Char)
  | '[' :: cs => if cs.getLast? = some ']' then some cs.dropLast else none
  | _ => none

/-- Text without one pair of enclosing square brackets, when it has both. -/
def unbracket (cs : List Char) : List Char := (inBrackets? cs).getD cs

/-- One pair of brackets is removed, whatever stands between them. -/
theorem unbracket_bracketed (cs : List Char) : unbracket ('[' :: (cs ++ [']'])) = cs := by
  simp [unbracket, inBrackets?]

end Text

end Sockets
