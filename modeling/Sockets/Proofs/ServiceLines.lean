import Sockets.Proofs.Resolution
import Sockets.Proofs.TextLines
import Sockets.Proofs.TextOctets

/-!
# The services database, line by line

A line of the services database writes an entry, or is skipped. This module says which lines are
which, in terms of how lines are written: words with blanks around them, a port in decimal, a slash,
and a comment if there is one. However entries are written on lines, and whatever lines that are
skipped stand between them, the database is read as these entries; so a service has the port of the
first line that lists it, and lines that are skipped make no difference to any service.

## Main definitions

* `Sockets.ServiceEntry.Writes`, `Sockets.ServiceEntry.Skipped` — what a line has to say.
* `Sockets.ServiceEntry.Rows` — the entries that lines write.
* `Sockets.ServiceEntry.First` — the port on the first line that lists a service.
* `Sockets.ServiceEntry.Register` — a text as a register of services.

## Main results

* `Sockets.ServiceEntry.ofLine?_eq_some_iff` — the entry on a line is the one that it writes.
* `Sockets.ServiceEntry.Writable.exists_writes` — what can be written is written on some line.
* `Sockets.ServiceEntry.register` — every text is a register of services.
-/

set_option autoImplicit false

namespace Sockets

open Resolution (Numeral)
open Text

namespace ServiceEntry

/-! ## Lines -/

/-- A line has words on it, and may have a comment behind them. -/
inductive Fields (fields : List (List Char)) : List Char → Prop
  | plain {text : List Char} (hno : '#' ∉ text) (h : Words isBlank fields text) :
    Fields fields text
  | commented {text : List Char} (comment : List Char) (hno : '#' ∉ text)
    (h : Words isBlank fields text) : Fields fields (text ++ '#' :: comment)

/-- The words before the comment of a line are those that it has on it.

**Proof sketch.** A line without the sign is its own text, and one with it is cut at the first, so
that what is kept has none. The words of what is kept are the fields in both cases. -/
lemma fields_iff {fields : List (List Char)} {line : List Char} :
    words isBlank (uncommented line) = fields ↔ Fields fields line := by
  have hplain {text : List Char} (hno : '#' ∉ text) : ∀ c ∈ text, decide (c ≠ '#') = true := by
    intro c hc
    exact decide_eq_true fun h => hno (h ▸ hc)
  have huncommented {text : List Char} (hno : '#' ∉ text) : uncommented text = text := by
    rw [← List.append_nil text, uncommented, List.takeWhile_append_of_pos (hplain hno),
      List.takeWhile_nil]
  have hcommented {text : List Char} (comment : List Char) (hno : '#' ∉ text) :
      uncommented (text ++ '#' :: comment) = text := by
    rw [uncommented, List.takeWhile_append_of_pos (hplain hno),
      List.takeWhile_cons_of_neg (by simp), List.append_nil]
  constructor
  · intro h
    by_cases hmem : '#' ∈ line
    · obtain ⟨text, comment, rfl, hno⟩ := List.eq_append_cons_of_mem hmem
      rw [hcommented comment hno] at h
      exact .commented comment hno (words_eq_iff.1 h)
    · rw [huncommented hmem] at h
      exact .plain hmem (words_eq_iff.1 h)
  · rintro (⟨hno, h⟩ | ⟨comment, hno, h⟩)
    · rw [huncommented hno, h.words_eq]
    · rw [hcommented comment hno, h.words_eq]

/-- A carriage return behind a line makes no difference to its words. -/
lemma Fields.append_return {fields : List (List Char)} {line : List Char} (h : Fields fields line) :
    Fields fields (line ++ ['\r']) := by
  cases h with
  | plain hno h =>
    exact .plain (by simpa using hno) (h.append_gap (List.forall_mem_singleton.2 rfl))
  | commented comment hno h =>
    rw [List.append_assoc]
    exact .commented (comment ++ ['\r']) hno h

/-- An entry with its transport in lower case. -/
def lowered (e : ServiceEntry) : ServiceEntry :=
  { e with protocol := String.ofList (e.protocol.toList.map Char.toLower) }

/-- A line writes an entry: its first name, its port and its transport, with a slash between them
and in any case, and its other names. -/
inductive Writes (e : ServiceEntry) : List Char → Prop
  | intro {name number protocol line : List Char} {aliases : List (List Char)}
    (hnames : e.names = (name :: aliases).map String.ofList) (hport : Numeral number e.port)
    (hprotocol : e.protocol.toList.map Char.toLower = protocol.map Char.toLower)
    (hfields : Fields (name :: (number ++ '/' :: protocol) :: aliases) line) : Writes e line

/-- A line is skipped: it has less than two words, or no slash in the second of them, or no port
before the slash. -/
inductive Skipped : List Char → Prop
  | short {fields : List (List Char)} {line : List Char} (hfew : fields.length < 2)
    (hfields : Fields fields line) : Skipped line
  | unslashed {name field line : List Char} {aliases : List (List Char)} (hno : '/' ∉ field)
    (hfields : Fields (name :: field :: aliases) line) : Skipped line
  | unnumbered {name number protocol line : List Char} {aliases : List (List Char)}
    (hno : '/' ∉ number) (hnumber : ∀ n, ¬ Numeral number n)
    (hfields : Fields (name :: (number ++ '/' :: protocol) :: aliases) line) : Skipped line

/-- There is no slash in a number. -/
lemma slash_notMem {number : List Char} {n : UInt16} (h : Numeral number n) : '/' ∉ number := by
  have hdigit : ∀ d < 10, Decimal.digit d ≠ '/' := by decide
  obtain ⟨ds, -, hds, -, rfl | rfl⟩ := h
  · simpa using fun d hd => hdigit d (hds d hd)
  · simpa using fun d hd => hdigit d (hds d hd)

/-- A port and a transport are read from what writes them. -/
lemma portField?_eq_some {number : List Char} {n : UInt16} (h : Numeral number n)
    (protocol : List Char) : portField? (number ++ '/' :: protocol) =
      some (n, String.ofList (protocol.map Char.toLower)) := by
  rw [portField?, cut_append_cons (slash_notMem h)]
  show (Decimal.word? number).bind _ = _
  rw [Resolution.word?_eq_some_iff.2 h]
  rfl

/-- The entry of a line is the one that it writes. -/
lemma Writes.ofLine?_eq {e : ServiceEntry} {line : List Char} (h : Writes e line) :
    ofLine? line = some e.lowered := by
  obtain ⟨hnames, hport, hprotocol, hfields⟩ := h
  rw [ofLine?, fields_iff.2 hfields]
  show (portField? _).bind _ = _
  rw [portField?_eq_some hport, lowered, hnames, hprotocol]
  rfl

/-- A line that is skipped has no entry.

**Proof sketch.** One case for each reason to skip a line: fewer than two words leave no port field;
a field without a slash is not cut; and a field with no number before the slash has none that is
read. -/
lemma Skipped.ofLine?_eq {line : List Char} (h : Skipped line) : ofLine? line = none := by
  cases h with
  | @short fields _ hfew hfields =>
    rw [ofLine?, fields_iff.2 hfields]
    obtain _ | ⟨name, _ | ⟨field, names⟩⟩ := fields
    · rfl
    · rfl
    · rw [List.length_cons, List.length_cons] at hfew
      omega
  | unslashed hno hfields =>
    rw [ofLine?, fields_iff.2 hfields]
    show (portField? _).bind _ = _
    rw [portField?, cut_of_notMem hno]
    rfl
  | @unnumbered _ number _ _ _ hno hnumber hfields =>
    have hword : Decimal.word? number = none :=
      Option.eq_none_iff_forall_not_mem.2 fun n hn => hnumber n (Resolution.word?_eq_some_iff.1 hn)
    rw [ofLine?, fields_iff.2 hfields]
    show (portField? _).bind _ = _
    rw [portField?, cut_append_cons hno]
    show ((Decimal.word? number).bind _).bind _ = _
    rw [hword]
    rfl

/-- Every line writes an entry or is skipped.

**Proof sketch.** By the words on the line. With fewer than two it is skipped. Otherwise the second
word has a slash with a number before it, and then it writes an entry, or it is skipped for want of
either. -/
theorem writes_or_skipped (line : List Char) : (∃ e, Writes e line) ∨ Skipped line := by
  obtain ⟨fields, hfields⟩ : ∃ fields, Fields fields line := ⟨_, fields_iff.1 rfl⟩
  match fields, hfields with
  | [], hfields => exact .inr (.short (by simp) hfields)
  | [_], hfields => exact .inr (.short (by simp) hfields)
  | name :: field :: aliases, hfields =>
    by_cases hslash : '/' ∈ field
    · obtain ⟨number, protocol, rfl, hno⟩ := List.eq_append_cons_of_mem hslash
      by_cases hnumber : ∃ n, Numeral number n
      · obtain ⟨n, hn⟩ := hnumber
        refine .inl ⟨⟨(name :: aliases).map String.ofList, n, String.ofList protocol⟩, ?_⟩
        exact .intro rfl hn (by rw [String.toList_ofList]) hfields
      · exact .inr (.unnumbered hno (not_exists.1 hnumber) hfields)
    · exact .inr (.unslashed hslash hfields)

/-- An entry that can be written: it has a name, and there are no blanks and no comments in its
names and its transport. -/
structure Writable (e : ServiceEntry) : Prop where
  names_ne_nil : e.names ≠ []
  name_ne_empty : ∀ name ∈ e.names, name ≠ ""
  name_plain : ∀ name ∈ e.names, ∀ c ∈ name.toList, isBlank c = false ∧ c ≠ '#'
  protocol_plain : ∀ c ∈ e.protocol.toList, isBlank c = false ∧ c ≠ '#'

/-- Every port can be written, and there are no blanks and no comments in it.

**Proof sketch.** The digits of a number stand for it, and zero is written with one digit of its
own. No digit is a blank or the sign of a comment. -/
lemma exists_numeral (n : UInt16) :
    ∃ number, Numeral number n ∧ ∀ c ∈ number, isBlank c = false ∧ c ≠ '#' := by
  have hplain : ∀ d < 10, isBlank (Decimal.digit d) = false ∧ Decimal.digit d ≠ '#' := by decide
  have hwrite (ds : List Nat) (hne : ds ≠ []) (hds : ∀ d ∈ ds, d < 10)
      (hn : Nat.ofDigits 10 ds.reverse = n.toNat) :
      ∃ number, Numeral number n ∧ ∀ c ∈ number, isBlank c = false ∧ c ≠ '#' := by
    refine ⟨ds.map Decimal.digit, ⟨ds, hne, hds, hn, .inl rfl⟩, ?_⟩
    exact List.forall_mem_map.2 fun d hd => hplain d (hds d hd)
  by_cases hn : n.toNat = 0
  · exact hwrite [0] (List.cons_ne_nil _ _) (by decide) (by simp [hn])
  · refine hwrite (Nat.digits 10 n.toNat).reverse ?_ (fun d hd => ?_) ?_
    · simpa [Nat.digits_eq_nil_iff_eq_zero] using hn
    · exact Nat.digits_lt_base (by decide) (List.mem_reverse.1 hd)
    · rw [List.reverse_reverse, Nat.ofDigits_digits]

/-- An entry that can be written is written on some line.

**Proof sketch.** The line has a blank before each word: the name, the port with a slash and the
protocol, and the other names. None of the words is empty or has a blank or the sign of a comment in
it, so they are the fields again, and no line ends among them. -/
theorem Writable.exists_writes {e : ServiceEntry} (h : e.Writable) :
    ∃ line, '\n' ∉ line ∧ Writes e line := by
  obtain ⟨name, names, hnames⟩ := List.exists_cons_of_ne_nil h.names_ne_nil
  obtain ⟨number, hnumber, hdigits⟩ := exists_numeral e.port
  let field := number ++ '/' :: e.protocol.toList
  let fields := name.toList :: field :: names.map String.toList
  have hfield : ∀ c ∈ field, isBlank c = false ∧ c ≠ '#' :=
    List.forall_mem_append.2 ⟨hdigits, List.forall_mem_cons.2 ⟨by decide, h.protocol_plain⟩⟩
  have hother (other : String) (hother : other ∈ e.names) :
      other.toList ≠ [] ∧ ∀ c ∈ other.toList, isBlank c = false ∧ c ≠ '#' :=
    ⟨by simpa using h.name_ne_empty other hother, h.name_plain other hother⟩
  have hfields : ∀ word ∈ fields, word ≠ [] ∧ ∀ c ∈ word, isBlank c = false ∧ c ≠ '#' := by
    refine List.forall_mem_cons.2 ⟨hother name (by simp [hnames]), List.forall_mem_cons.2
      ⟨⟨by simp [field], hfield⟩, List.forall_mem_map.2 fun other hmem => hother other ?_⟩⟩
    simp [hnames, hmem]
  have hwords : Words isBlank fields (fields.flatMap fun word => ' ' :: word) :=
    words_flatMap (by decide)
      fun word hword => ⟨(hfields word hword).1, fun c hc => ((hfields word hword).2 c hc).1⟩
  refine ⟨fields.flatMap fun word => ' ' :: word, ?_, .intro (by simp [hnames]) hnumber rfl
    (.plain ?_ hwords)⟩
  · simp only [List.mem_flatMap, List.mem_cons, not_exists, not_and, not_or]
    refine fun word hword => ⟨by decide, fun hc => ?_⟩
    exact absurd ((hfields word hword).2 _ hc).1 (by decide)
  · simp only [List.mem_flatMap, List.mem_cons, not_exists, not_and, not_or]
    exact fun word hword => ⟨by decide, fun hc => ((hfields word hword).2 _ hc).2 rfl⟩

/-- The entry on a line is the one that it writes. -/
theorem ofLine?_eq_some_iff {line : List Char} {f : ServiceEntry} :
    ofLine? line = some f ↔ ∃ e, Writes e line ∧ e.lowered = f := by
  constructor
  · intro h
    rcases writes_or_skipped line with ⟨e, he⟩ | hskipped
    · exact ⟨e, he, Option.some.inj (he.ofLine?_eq.symm.trans h)⟩
    · exact nomatch hskipped.ofLine?_eq.symm.trans h
  · rintro ⟨e, he, rfl⟩
    exact he.ofLine?_eq

/-- A text of lines has the entries that are on them.

**Proof sketch.** By induction on the lines. Each end of a line is where the text is split; a
carriage return in front of it stays on the line, where it is a blank and so makes no difference to
the entry. -/
lemma table_eq_filterMap {text : String} {lines : List (List Char)}
    (h : Lines lines text.toList) : table text = lines.filterMap ofLine? := by
  -- A carriage return is no end of a line by itself, but a blank in front of one.
  have hreturn (line : List Char) : ofLine? (line ++ ['\r']) = ofLine? line := by
    rw [ofLine?, fields_iff.2 (fields_iff.1 rfl).append_return]
    rfl
  rw [table]
  generalize text.toList = cs at h
  induction h with
  | nil => simp [splitAll, ofLine?_nil]
  | last hline => rw [splitAll_of_notMem hline]
  | @cons line ends rest lines hline hends _ ih =>
    cases hends with
    | lf =>
      rw [List.singleton_append, splitAll_append_cons hline, List.filterMap_cons,
        List.filterMap_cons, ih]
    | crlf =>
      have hcr : '\n' ∉ line ++ ['\r'] := by simpa using hline
      rw [List.cons_append, List.singleton_append, List.append_cons, splitAll_append_cons hcr,
        List.filterMap_cons, List.filterMap_cons, hreturn, ih]

example : table "http 80/TCP www # the web\nbroken line\r\ndomain\t53/udp\r\n" =
    [⟨["http", "www"], 80, "tcp"⟩, ⟨["domain"], 53, "udp"⟩] := by decide

/-! ## The register -/

/-- Lines write entries in their order, and lines that are skipped stand anywhere between them. -/
inductive Rows : List ServiceEntry → List (List Char) → Prop
  | nil : Rows [] []
  | entry {e : ServiceEntry} {es : List ServiceEntry} {line : List Char} {lines : List (List Char)}
    (h : Writes e line) (hrest : Rows es lines) : Rows (e :: es) (line :: lines)
  | skipped {es : List ServiceEntry} {line : List Char} {lines : List (List Char)}
    (h : Skipped line) (hrest : Rows es lines) : Rows es (line :: lines)

/-- Whatever lines there are, they write some entries. -/
lemma exists_rows (lines : List (List Char)) : ∃ es, Rows es lines := by
  induction lines with
  | nil => exact ⟨[], .nil⟩
  | cons line lines ih =>
    obtain ⟨es, hes⟩ := ih
    rcases writes_or_skipped line with ⟨e, he⟩ | hskipped
    · exact ⟨e :: es, .entry he hes⟩
    · exact ⟨es, .skipped hskipped hes⟩

/-- The entries on lines are those that they write. -/
lemma Rows.filterMap_eq {es : List ServiceEntry} {lines : List (List Char)} (h : Rows es lines) :
    lines.filterMap ofLine? = es.map lowered := by
  induction h with
  | nil => rfl
  | entry h _ ih => rw [List.filterMap_cons, h.ofLine?_eq, ih, List.map_cons]
  | skipped h _ ih => rw [List.filterMap_cons, h.ofLine?_eq, ih]

/-- A line lists a service with a port, under one of its names and in lower case its transport. -/
def Lists (name protocol : String) (line : List Char) (port : UInt16) : Prop :=
  ∃ e, Writes e line ∧ name ∈ e.names ∧ e.lowered.protocol = protocol ∧ e.port = port

/-- The port on the first line that lists a service, if any of the lines does. -/
inductive First (name protocol : String) (lines : List (List Char)) : Option UInt16 → Prop
  | found {front back : List (List Char)} {line : List Char} {port : UInt16}
    (hlines : lines = front ++ line :: back) (hline : Lists name protocol line port)
    (hfront : ∀ line ∈ front, ∀ port, ¬ Lists name protocol line port) :
    First name protocol lines (some port)
  | missing (h : ∀ line ∈ lines, ∀ port, ¬ Lists name protocol line port) :
    First name protocol lines none

variable {name protocol : String}

/-- A line lists a service with the port of its entry, if that is for the service.

**Proof sketch.** The entry that answers is the one on the line with its protocol lowered, and it
answers for its names under that. -/
lemma lists_iff {line : List Char} {port : UInt16} : Lists name protocol line port ↔
    ∃ f, ofLine? line = some f ∧ f.answers name protocol = true ∧ f.port = port := by
  have hanswers {e : ServiceEntry} : e.lowered.answers name protocol = true ↔
      name ∈ e.names ∧ e.lowered.protocol = protocol := by
    rw [answers, Bool.and_eq_true, beq_iff_eq, List.contains_iff_mem, and_comm]
    rfl
  constructor
  · rintro ⟨e, he, hname, hprotocol, rfl⟩
    exact ⟨_, he.ofLine?_eq, hanswers.2 ⟨hname, hprotocol⟩, rfl⟩
  · rintro ⟨f, hf, hanswer, rfl⟩
    obtain ⟨e, he, rfl⟩ := ofLine?_eq_some_iff.1 hf
    obtain ⟨hname, hprotocol⟩ := hanswers.1 hanswer
    exact ⟨e, he, hname, hprotocol, rfl⟩

/-- Lines none of which lists a service are passed over. -/
lemma listed?_append {front : List (List Char)}
    (hfront : ∀ line ∈ front, ∀ port, ¬ Lists name protocol line port) (back : List (List Char)) :
    listed? ((front ++ back).filterMap ofLine?) name protocol =
      listed? (back.filterMap ofLine?) name protocol := by
  have hnone : (front.filterMap ofLine?).find? (fun e => e.answers name protocol) = none := by
    rw [List.find?_eq_none]
    intro f hf hanswer
    obtain ⟨line, hline, hf⟩ := List.mem_filterMap.1 hf
    exact hfront line hline f.port (lists_iff.2 ⟨f, hf, hanswer, rfl⟩)
  rw [listed?, List.filterMap_append, List.find?_append, hnone, Option.none_or, listed?]

/-- The port on the first line that lists a service is the one in the table. -/
lemma First.listed?_eq {lines : List (List Char)} {r : Option UInt16}
    (h : First name protocol lines r) : listed? (lines.filterMap ofLine?) name protocol = r := by
  cases h with
  | @found front back line port hlines hline hfront =>
    obtain ⟨f, hf, hanswer, rfl⟩ := lists_iff.1 hline
    rw [hlines, listed?_append hfront, List.filterMap_cons_some hf]
    simp [listed?, hanswer]
  | missing h =>
    rw [← List.append_nil lines, listed?_append h]
    rfl

/-- There is a first line that lists a service, or none does.

**Proof sketch.** By induction on the lines. The first line lists the service, or what is first in
the rest is first in all. -/
lemma exists_first (name protocol : String) (lines : List (List Char)) :
    ∃ r, First name protocol lines r := by
  induction lines with
  | nil => exact ⟨none, .missing (List.forall_mem_nil _)⟩
  | cons line lines ih =>
    by_cases hline : ∃ port, Lists name protocol line port
    · obtain ⟨port, hport⟩ := hline
      exact ⟨some port, .found (List.nil_append _).symm hport (List.forall_mem_nil _)⟩
    have hline := not_exists.1 hline
    obtain ⟨r, hr⟩ := ih
    cases hr with
    | @found front back first port hlines hfirst hfront =>
      have hcons : line :: lines = (line :: front) ++ first :: back := by
        rw [hlines, List.cons_append]
      exact ⟨some port, .found hcons hfirst (List.forall_mem_cons.2 ⟨hline, hfront⟩)⟩
    | missing h => exact ⟨none, .missing (List.forall_mem_cons.2 ⟨hline, h⟩)⟩

/-- Lines that are the same but for lines that are skipped, in either of them and anywhere. -/
inductive Apart : List (List Char) → List (List Char) → Prop
  | nil : Apart [] []
  | both {lines lines' : List (List Char)} (line : List Char) (h : Apart lines lines') :
    Apart (line :: lines) (line :: lines')
  | left {line : List Char} {lines lines' : List (List Char)} (hline : Skipped line)
    (h : Apart lines lines') : Apart (line :: lines) lines'
  | right {line : List Char} {lines lines' : List (List Char)} (hline : Skipped line)
    (h : Apart lines lines') : Apart lines (line :: lines')

/-- Lines that are skipped have no entries. -/
lemma Apart.filterMap_eq {lines lines' : List (List Char)} (h : Apart lines lines') :
    lines.filterMap ofLine? = lines'.filterMap ofLine? := by
  induction h with
  | nil => rfl
  | both line _ ih => rw [List.filterMap_cons, List.filterMap_cons, ih]
  | left hline _ ih => rw [List.filterMap_cons, hline.ofLine?_eq, ih]
  | right hline _ ih => rw [List.filterMap_cons, hline.ofLine?_eq, ih]

/-- A services database is that of a text: it has not been read and holds the text, or it has been
read from it. -/
inductive Keeps (text : String) : ServiceBook → Prop
  | unread : Keeps text (.unread (.octets (Utf8.encode text)))
  | read : Keeps text (.read (table text))

/-- A text as a register of services. -/
structure Register (text : String) : Prop where
  /-- The text is lines. -/
  exists_lines : ∃ lines, Lines lines text.toList
  /-- Its lines write some entries, and the others are skipped. -/
  exists_rows : ∀ lines, Lines lines text.toList → ∃ es, Rows es lines
  /-- The entries that its lines write are read, in their order and in lower case. -/
  table_eq : ∀ lines es, Lines lines text.toList → Rows es lines → table text = es.map lowered
  /-- Any entries that can be written can be put on lines in front of the others. -/
  exists_front : ∀ es : List ServiceEntry, (∀ e ∈ es, e.Writable) → ∀ lines,
    Lines lines text.toList →
      ∃ (front : List (List Char)) (text' : String), Rows es front ∧
        Lines (front ++ lines) text'.toList
  /-- There is a first of its lines that lists a service, or none does. -/
  exists_first : ∀ lines name protocol, Lines lines text.toList → ∃ r, First name protocol lines r
  /-- A service has the port on the first line that lists it, and the one that is well known only
  if there is no such line. -/
  servicePort_eq : ∀ lines name protocol r (w : World), Lines lines text.toList →
    First name protocol lines r → Keeps text w.services →
    (Net.servicePort? name protocol w).1 = r.or (listed? wellKnown name protocol)
  /-- The database remains that of the text when a service is looked up. -/
  keeps : ∀ name protocol (w : World), Keeps text w.services →
    Keeps text (Net.servicePort? name protocol w).2.services
  /-- Lines that are skipped can be put in and taken out anywhere. -/
  same_of_apart : ∀ lines lines' text' name protocol (w w' : World), Lines lines text.toList →
    Lines lines' text'.toList → Apart lines lines' → Keeps text w.services →
    Keeps text' w'.services →
    (Net.servicePort? name protocol w).1 = (Net.servicePort? name protocol w').1

/-- Looking a service up gives what the table of the text has, and the database remains that of the
text.

**Proof sketch.** By whether the database was read. If it was, its entries are the table of the
text. If it was not, it is read now, from octets that are those of the text. -/
lemma Keeps.servicePort? {text : String} {w : World} (h : Keeps text w.services)
    (name protocol : String) :
    (Net.servicePort? name protocol w).1 = port? (table text) name protocol ∧
      Keeps text (Net.servicePort? name protocol w).2.services := by
  cases hbook : w.services with
  | read entries =>
    obtain rfl : entries = table text := by
      rw [hbook] at h
      cases h
      rfl
    rw [Net.servicePort?_of_read name protocol w _ hbook]
    exact ⟨rfl, h⟩
  | unread content =>
    rw [hbook] at h
    cases h
    have hfirst : Net.servicePort? name protocol w =
        (port? (table text) name protocol, { w with services := .read (table text) }) := by
      simp only [Net.servicePort?, Net.serviceTable, bind, StateT.bind, get, getThe,
        MonadStateOf.get, StateT.get, pure, hbook, ServiceBook.table, Utf8.decode?_encode]
      rfl
    rw [hfirst]
    exact ⟨rfl, .read⟩

/-- Any entries that can be written can be put on lines in front of those of a text.

**Proof sketch.** By induction on the entries. Each can be written on a line
(`Writable.exists_writes`), and a line with its end is put in front of a text. -/
lemma exists_front {es : List ServiceEntry} (hes : ∀ e ∈ es, e.Writable) {text : String}
    {lines : List (List Char)} (hlines : Lines lines text.toList) :
    ∃ (front : List (List Char)) (text' : String), Rows es front ∧
      Lines (front ++ lines) text'.toList := by
  induction es with
  | nil => exact ⟨[], text, .nil, hlines⟩
  | cons e es ih =>
    obtain ⟨he, hes⟩ := List.forall_mem_cons.1 hes
    obtain ⟨front, text', hfront, htext⟩ := ih hes
    obtain ⟨line, hline, hwrites⟩ := he.exists_writes
    refine ⟨line :: front, String.ofList (line ++ (['\n'] ++ text'.toList)),
      .entry hwrites hfront, ?_⟩
    rw [String.toList_ofList]
    exact .cons hline .lf htext

/-- **Every text is a register of services.**

**Proof sketch.** The lines of a text are those that it is split into, and what is on them are the
entries of its table (`table_eq_filterMap`). A port is then the first one that is listed, or the one
that is built in, and the database remains that of the text (`Keeps.servicePort?`). -/
theorem register (text : String) : Register text where
  exists_lines := Text.exists_lines text.toList
  exists_rows lines _ := ServiceEntry.exists_rows lines
  table_eq lines es hlines hes := by rw [table_eq_filterMap hlines, hes.filterMap_eq]
  exists_front _ hes _ hlines := ServiceEntry.exists_front hes hlines
  exists_first lines name protocol _ := ServiceEntry.exists_first name protocol lines
  servicePort_eq lines name protocol r w hlines hr hw := by
    rw [(hw.servicePort? name protocol).1, port?, table_eq_filterMap hlines, hr.listed?_eq]
  keeps name protocol w hw := (hw.servicePort? name protocol).2
  same_of_apart lines lines' text' name protocol w w' hlines hlines' h hw hw' := by
    rw [(hw.servicePort? name protocol).1, (hw'.servicePort? name protocol).1,
      table_eq_filterMap hlines, table_eq_filterMap hlines', h.filterMap_eq]

end ServiceEntry

end Sockets
