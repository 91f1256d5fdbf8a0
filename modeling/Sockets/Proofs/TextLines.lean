import Mathlib.Tactic.Lemma
import Sockets.Text.Fields

/-!
# How words and lines are written

A text is words with blanks around them, and it is lines with an end behind each of them. This
module says so as relations between what is written and the text, without saying how it is read:
blanks may stand in front and behind, and have to stand between two words; a line ends with a line
feed, before which there may be a carriage return.

## Main definitions

* `Sockets.Text.Words` — a text is words with blanks around them.
* `Sockets.Text.Lines` — a text is lines, each with an end behind it.

## Main results

* `Sockets.Text.words_eq_iff` — the words of a text are those that it is written with.
* `Sockets.Text.exists_lines` — every text is lines.
-/

set_option autoImplicit false

namespace Sockets

namespace Text

/-! ## Words -/

/-- A text is words: blanks may stand before each of them and behind the last, and have to stand
between any two. -/
inductive Words (blank : Char → Bool) : List (List Char) → List Char → Prop
  | nil {gap : List Char} (hgap : ∀ c ∈ gap, blank c = true) : Words blank [] gap
  | cons {gap word rest : List Char} {ws : List (List Char)} (hgap : ∀ c ∈ gap, blank c = true)
    (hne : word ≠ []) (hword : ∀ c ∈ word, blank c = false)
    (hends : ∀ c ∈ rest.head?, blank c = true) (hrest : Words blank ws rest) :
    Words blank (word :: ws) (gap ++ (word ++ rest))

variable {blank : Char → Bool} {ws : List (List Char)} {cs : List Char}

/-- Blanks before a word are passed over. -/
lemma wordsFrom_gap {gap : List Char} (hgap : ∀ c ∈ gap, blank c = true) (cs : List Char) :
    wordsFrom blank [] (gap ++ cs) = wordsFrom blank [] cs := by
  induction gap with
  | nil => rfl
  | cons c gap ih =>
    obtain ⟨hc, hgap⟩ := List.forall_mem_cons.1 hgap
    rw [List.cons_append, wordsFrom, if_pos hc, if_pos rfl, ih hgap]

/-- What is not blank is read into the word at hand. -/
lemma wordsFrom_word {word : List Char} (hword : ∀ c ∈ word, blank c = false)
    (read cs : List Char) :
    wordsFrom blank read (word ++ cs) = wordsFrom blank (read ++ word) cs := by
  induction word generalizing read with
  | nil => rw [List.nil_append, List.append_nil]
  | cons c word ih =>
    obtain ⟨hc, hword⟩ := List.forall_mem_cons.1 hword
    rw [List.cons_append, wordsFrom, if_neg (by simp [hc]), ih hword, List.append_assoc]
    rfl

/-- A word ends where a blank follows, or nothing. -/
lemma wordsFrom_ends {read : List Char} (hne : read ≠ []) (hends : ∀ c ∈ cs.head?, blank c = true) :
    wordsFrom blank read cs = read :: wordsFrom blank [] cs := by
  cases cs with
  | nil => simp [wordsFrom, hne]
  | cons c cs =>
    have hc : blank c = true := hends c rfl
    rw [wordsFrom, if_pos hc, if_neg hne, wordsFrom, if_pos hc, if_pos rfl]

/-- A word in front of what follows it, with no blanks before it. -/
lemma Words.cons_word {word rest : List Char} (hne : word ≠ [])
    (hword : ∀ c ∈ word, blank c = false) (hends : ∀ c ∈ rest.head?, blank c = true)
    (hrest : Words blank ws rest) : Words blank (word :: ws) (word ++ rest) :=
  .cons (List.forall_mem_nil _) hne hword hends hrest

/-- The words that a text is written with are its words. -/
lemma Words.words_eq (h : Words blank ws cs) : words blank cs = ws := by
  unfold words
  induction h with
  | @nil gap hgap =>
    rw [← List.append_nil gap, wordsFrom_gap hgap]
    rfl
  | cons hgap hne hword hends _ ih =>
    rw [wordsFrom_gap hgap, wordsFrom_word hword, List.nil_append, wordsFrom_ends hne hends, ih]

/-- A blank before a text makes no difference to its words. -/
lemma Words.blank_cons {c : Char} (hc : blank c = true) (h : Words blank ws cs) :
    Words blank ws (c :: cs) := by
  cases h with
  | nil hgap => exact .nil (List.forall_mem_cons.2 ⟨hc, hgap⟩)
  | cons hgap hne hword hends hrest =>
    exact .cons (List.forall_mem_cons.2 ⟨hc, hgap⟩) hne hword hends hrest

/-- A character before a text belongs to its first word, or is one by itself.

**Proof sketch.** The character is one word by itself if a blank or nothing comes next, and
otherwise goes to the front of the first word. -/
lemma Words.exists_cons {c : Char} (hc : blank c = false) (h : Words blank ws cs) :
    ∃ ws, Words blank ws (c :: cs) := by
  have halone (hends : ∀ d ∈ cs.head?, blank d = true) : ∃ ws, Words blank ws (c :: cs) :=
    ⟨[c] :: ws, .cons_word (List.cons_ne_nil _ _) (by simpa using hc) hends h⟩
  cases h with
  | nil hgap => exact halone fun d hd => hgap d (List.mem_of_head? hd)
  | @cons gap word rest ws hgap hne hword hends hrest =>
    cases gap with
    | nil =>
      exact ⟨(c :: word) :: ws, .cons_word (List.cons_ne_nil _ _)
        (List.forall_mem_cons.2 ⟨hc, hword⟩) hends hrest⟩
    | cons b gap =>
      refine halone fun d hd => ?_
      obtain rfl : b = d := Option.some.inj hd
      exact hgap b List.mem_cons_self

/-- Every text is words. -/
lemma exists_words (blank : Char → Bool) (cs : List Char) : ∃ ws, Words blank ws cs := by
  induction cs with
  | nil => exact ⟨[], .nil (List.forall_mem_nil _)⟩
  | cons c cs ih =>
    obtain ⟨ws, hws⟩ := ih
    cases hc : blank c with
    | true => exact ⟨ws, hws.blank_cons hc⟩
    | false => exact hws.exists_cons hc

/-- **The words of a text** are those that it is written with.

**Proof sketch.** A text has words in one way at least (`exists_words`), and whatever they are, they
are those that are found (`Words.words_eq`). -/
theorem words_eq_iff : words blank cs = ws ↔ Words blank ws cs := by
  constructor
  · rintro rfl
    obtain ⟨ws, hws⟩ := exists_words blank cs
    rwa [hws.words_eq]
  · exact Words.words_eq

/-- Blanks behind a text make no difference to its words. -/
lemma Words.append_gap {gap : List Char} (hgap : ∀ c ∈ gap, blank c = true)
    (h : Words blank ws cs) : Words blank ws (cs ++ gap) := by
  induction h with
  | nil hgap' => exact .nil (List.forall_mem_append.2 ⟨hgap', hgap⟩)
  | @cons front word rest ws hfront hne hword hends hrest ih =>
    rw [List.append_assoc, List.append_assoc]
    refine .cons hfront hne hword (fun c hc => ?_) ih
    cases rest with
    | nil => exact hgap c (List.mem_of_head? hc)
    | cons d rest => exact hends c hc

/-- Words with a blank before each of them are a text.

**Proof sketch.** By induction on the words. Each is followed by the blank before the next one, or
by nothing. -/
lemma words_flatMap {c : Char} (hc : blank c = true)
    (h : ∀ word ∈ ws, word ≠ [] ∧ ∀ d ∈ word, blank d = false) :
    Words blank ws (ws.flatMap fun word => c :: word) := by
  induction ws with
  | nil => exact .nil (List.forall_mem_nil _)
  | cons word ws ih =>
    obtain ⟨⟨hne, hword⟩, h⟩ := List.forall_mem_cons.1 h
    refine (Words.cons_word hne hword (fun d hd => ?_) (ih h)).blank_cons hc
    cases ws with
    | nil => exact nomatch hd
    | cons next ws =>
      obtain rfl : c = d := Option.some.inj hd
      exact hc

/-! ## Lines -/

/-- What ends a line. -/
inductive Ends : List Char → Prop
  | lf : Ends ['\n']
  | crlf : Ends ['\r', '\n']

/-- A text is lines, each of them with an end behind it; the last may go without. -/
inductive Lines : List (List Char) → List Char → Prop
  | nil : Lines [] []
  | last {line : List Char} (hline : '\n' ∉ line) : Lines [line] line
  | cons {line ends rest : List Char} {lines : List (List Char)} (hline : '\n' ∉ line)
    (hends : Ends ends) (hrest : Lines lines rest) : Lines (line :: lines) (line ++ (ends ++ rest))

/-- A character before a text belongs to its first line. -/
lemma Lines.exists_cons {c : Char} {cs : List Char} {lines : List (List Char)} (hc : c ≠ '\n')
    (h : Lines lines cs) : ∃ lines, Lines lines (c :: cs) := by
  cases h with
  | nil => exact ⟨[[c]], .last (by simpa using hc.symm)⟩
  | last hline => exact ⟨[c :: cs], .last (by simpa [hc.symm] using hline)⟩
  | @cons line _ _ lines hline hends hrest =>
    exact ⟨(c :: line) :: lines, .cons (by simpa [hc.symm] using hline) hends hrest⟩

/-- Every text is lines. -/
theorem exists_lines (cs : List Char) : ∃ lines, Lines lines cs := by
  induction cs with
  | nil => exact ⟨[], .nil⟩
  | cons c cs ih =>
    obtain ⟨lines, hlines⟩ := ih
    by_cases hc : c = '\n'
    · exact ⟨[] :: lines, hc ▸ .cons (List.not_mem_nil) .lf hlines⟩
    · exact hlines.exists_cons hc

end Text

end Sockets
