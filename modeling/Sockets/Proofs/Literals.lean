import Mathlib.Tactic.Lemma
import Sockets.Address.Text

/-!
# Literals

The text of an internet address is read back as that address. For dotted quads the pieces between
dots are the octets. For addresses of eight groups the pieces between colons are the groups; where a
run of zero groups is written as `::`, that is the first place where two colons meet, since the
groups before it have digits between and behind their colons.

## Main results

* `Sockets.Ipv6.groupsOf?_joinGroups` — groups are read back from their text.
* `Sockets.Ipv4.ofChars?_chars`, `Sockets.Ipv6.ofChars?_chars`, `Sockets.Ip.ofChars?_chars` —
  addresses are read back from theirs.
* `Sockets.Ip.literal?_text`, `Sockets.Ip.literal?_bracketed` — with brackets around it or none.
-/

set_option autoImplicit false

namespace Sockets

open Text

/-! ## Pieces of text -/

namespace Text

/-- What a text is made of stands in its pieces, the separator apart.

**Proof sketch.** By induction on the text. Where the text is cut the character stands behind, as it
is not the separator. Elsewhere the first character goes to the front of the first piece, and what
stands in a piece still does. -/
lemma exists_mem_splitAll {sep c : Char} {cs : List Char} (hc : c ∈ cs) (hsep : c ≠ sep) :
    ∃ p ∈ splitAll sep cs, c ∈ p := by
  induction cs with
  | nil => exact absurd hc List.not_mem_nil
  | cons d cs ih =>
    unfold splitAll
    split
    · rename_i hd
      have hcs : c ∈ cs := (List.mem_cons.1 hc).resolve_left fun h => hsep (h.trans hd)
      obtain ⟨p, hp, hcp⟩ := ih hcs
      exact ⟨p, List.mem_cons_of_mem _ hp, hcp⟩
    · cases hpieces : splitAll sep cs with
      | nil => exact absurd hpieces (splitAll_ne_nil sep cs)
      | cons q ps =>
        rcases List.mem_cons.1 hc with rfl | hcs
        · exact ⟨c :: q, List.mem_cons_self, List.mem_cons_self⟩
        · obtain ⟨p, hp, hcp⟩ := ih hcs
          rw [hpieces] at hp
          rcases List.mem_cons.1 hp with rfl | hp
          · exact ⟨d :: p, List.mem_cons_self, List.mem_cons_of_mem _ hcp⟩
          · exact ⟨p, List.mem_cons_of_mem _ hp, hcp⟩

/-- Text that does not start with a bracket is in none. -/
lemma unbracket_of_head? {cs : List Char} (h : cs.head? ≠ some '[') : unbracket cs = cs := by
  unfold unbracket inBrackets?
  split
  · exact absurd rfl h
  · rfl

end Text

/-! ## Dotted quads -/

namespace Text.Decimal

/-- The text of an octet has digits only. -/
lemma isDigit_of_mem_octet {b : UInt8} {c : Char} (hc : c ∈ octet b) : ∃ n < 10, c = digit n := by
  have hb : b.toNat < 256 := b.toNat_lt
  unfold octet at hc
  simp only at hc
  split at hc
  · rename_i h
    exact ⟨_, h, List.mem_singleton.1 hc⟩
  split at hc
  · simp only [List.mem_cons, List.not_mem_nil, or_false] at hc
    rcases hc with rfl | rfl
    · exact ⟨_, by omega, rfl⟩
    · exact ⟨_, by omega, rfl⟩
  · simp only [List.mem_cons, List.not_mem_nil, or_false] at hc
    rcases hc with rfl | rfl | rfl
    · exact ⟨_, by omega, rfl⟩
    · exact ⟨_, by omega, rfl⟩
    · exact ⟨_, by omega, rfl⟩

/-- A digit is no dot and no colon. -/
lemma digit_ne : ∀ n < 10, digit n ≠ '.' ∧ digit n ≠ ':' ∧ digit n ≠ '[' := by decide

/-- There is no dot in the text of an octet. -/
lemma dot_notMem_octet (b : UInt8) : '.' ∉ octet b := fun hdot =>
  have ⟨n, hn, heq⟩ := isDigit_of_mem_octet hdot
  (digit_ne n hn).1 heq.symm

/-- There is no colon in the text of an octet. -/
lemma colon_notMem_octet (b : UInt8) : ':' ∉ octet b := fun hcolon =>
  have ⟨n, hn, heq⟩ := isDigit_of_mem_octet hcolon
  (digit_ne n hn).2.1 heq.symm

end Text.Decimal

namespace Ipv4

/-- **A dotted quad is read back** as its address.

**Proof sketch.** No octet is written with a dot, so splitting at the dots gives the texts of the
four octets, each of which is read back. -/
theorem ofChars?_chars (ip : Ipv4) : ofChars? ip.chars = some ip := by
  have hpieces : splitAll '.' ip.chars =
      [Decimal.octet ip.a, Decimal.octet ip.b, Decimal.octet ip.c, Decimal.octet ip.d] := by
    unfold chars
    rw [splitAll_append_cons (Decimal.dot_notMem_octet _),
      splitAll_append_cons (Decimal.dot_notMem_octet _),
      splitAll_append_cons (Decimal.dot_notMem_octet _),
      splitAll_of_notMem (Decimal.dot_notMem_octet _)]
  unfold ofChars?
  rw [hpieces]
  simp [Decimal.octet?_octet]

/-- There is no colon in a dotted quad.

**Proof sketch.** A colon would stand in one of the pieces, as it is no dot. But the pieces of a
dotted quad are the texts of octets, which have no colon. -/
lemma colon_notMem_of_ofChars? {cs : List Char} {ip : Ipv4} (h : ofChars? cs = some ip) :
    ':' ∉ cs := by
  intro hcolon
  obtain ⟨p, hp, hcp⟩ := exists_mem_splitAll hcolon (by decide : ':' ≠ '.')
  unfold ofChars? at h
  split at h
  · rename_i a b c d hpieces
    simp only [Option.bind_eq_bind, Option.bind_eq_some_iff] at h
    obtain ⟨x, hx, y, hy, z, hz, u, hu, -⟩ := h
    rw [hpieces] at hp
    simp only [List.mem_cons, List.not_mem_nil, or_false] at hp
    have hoctet : ∃ b, p = Decimal.octet b := by
      rcases hp with rfl | rfl | rfl | rfl
      · exact ⟨x, Decimal.octet_of_octet? hx⟩
      · exact ⟨y, Decimal.octet_of_octet? hy⟩
      · exact ⟨z, Decimal.octet_of_octet? hz⟩
      · exact ⟨u, Decimal.octet_of_octet? hu⟩
    obtain ⟨b, rfl⟩ := hoctet
    exact Decimal.colon_notMem_octet b hcp
  · exact nomatch h

/-- A dotted quad starts with a digit. -/
lemma head?_chars (ip : Ipv4) : ip.chars.head? ≠ some '[' := by
  intro h
  have hmem : '[' ∈ Decimal.octet ip.a := by
    unfold chars at h
    cases hoctet : Decimal.octet ip.a with
    | nil => simp [hoctet] at h
    | cons c cs =>
      rw [hoctet, List.cons_append, List.head?_cons, Option.some.injEq] at h
      rw [h]
      exact List.mem_cons_self
  obtain ⟨n, hn, heq⟩ := Decimal.isDigit_of_mem_octet hmem
  exact (Decimal.digit_ne n hn).2.2 heq.symm

end Ipv4

/-! ## Groups -/

namespace Ipv6

/-- Hexadecimal digits are read one by one. -/
lemma hexFrom?_map_hexDigit {ds : List Nat} (hds : ∀ d ∈ ds, d < 16) (n : Nat) :
    hexFrom? n (ds.map Bytes.hexDigit) = some (ds.foldl (fun m d => 16 * m + d) n) := by
  induction ds generalizing n with
  | nil => rfl
  | cons d ds ih =>
    obtain ⟨hd, hds⟩ := List.forall_mem_cons.1 hds
    rw [List.map_cons, hexFrom?, Bytes.hexValue?_hexDigit d hd, Option.bind_some, ih hds,
      List.foldl_cons]

/-- The text of a group is one to four hexadecimal digits that stand for it. -/
lemma exists_digits_groupChars (g : UInt16) :
    ∃ ds : List Nat, groupChars g = ds.map Bytes.hexDigit ∧ (∀ d ∈ ds, d < 16) ∧
      (1 ≤ ds.length ∧ ds.length ≤ 4) ∧ ds.foldl (fun m d => 16 * m + d) 0 = g.toNat := by
  have hg : g.toNat < 65536 := g.toNat_lt
  unfold groupChars
  simp only
  split
  · exact ⟨[g.toNat], rfl, by simp; omega, by simp, by simp⟩
  split
  · exact ⟨[g.toNat / 16, g.toNat % 16], rfl, by simp; omega, by simp, by simp; omega⟩
  split
  · exact ⟨[g.toNat / 256, g.toNat / 16 % 16, g.toNat % 16], rfl, by simp; omega, by simp,
      by simp; omega⟩
  · exact ⟨[g.toNat / 4096, g.toNat / 256 % 16, g.toNat / 16 % 16, g.toNat % 16], rfl,
      by simp; omega, by simp, by simp; omega⟩

/-- A group is read back from its text. -/
lemma group?_groupChars (g : UInt16) : group? (groupChars g) = some g := by
  obtain ⟨ds, hds, hlt, hlength, hvalue⟩ := exists_digits_groupChars g
  rw [hds, group?, List.length_map, if_pos hlength, hexFrom?_map_hexDigit hlt, hvalue]
  simp

/-- A hexadecimal digit is no colon and no bracket. -/
lemma hexDigit_ne : ∀ n < 16, Bytes.hexDigit n ≠ ':' ∧ Bytes.hexDigit n ≠ '[' := by decide

/-- There is no colon in the text of a group. -/
lemma colon_notMem_groupChars (g : UInt16) : ':' ∉ groupChars g := by
  obtain ⟨ds, hds, hlt, -⟩ := exists_digits_groupChars g
  rw [hds, List.mem_map]
  rintro ⟨d, hd, heq⟩
  exact (hexDigit_ne d (hlt d hd)).1 heq

/-- The text of a group starts with a digit. -/
lemma exists_groupChars_eq_cons (g : UInt16) :
    ∃ c cs, groupChars g = c :: cs ∧ c ≠ ':' ∧ c ≠ '[' := by
  obtain ⟨ds, hds, hlt, ⟨hlength, -⟩, -⟩ := exists_digits_groupChars g
  cases ds with
  | nil => exact absurd hlength (by simp)
  | cons d ds => exact ⟨_, _, hds, hexDigit_ne d (hlt d List.mem_cons_self)⟩

/-- The text of some groups starts with a digit. -/
lemma exists_joinGroups_eq_cons (g : UInt16) (gs : List UInt16) :
    ∃ c cs, joinGroups (g :: gs) = c :: cs ∧ c ≠ ':' ∧ c ≠ '[' := by
  obtain ⟨c, cs, hg, hc⟩ := exists_groupChars_eq_cons g
  cases gs with
  | nil => exact ⟨c, cs, hg, hc⟩
  | cons h gs => exact ⟨c, cs ++ ':' :: joinGroups (h :: gs), by simp [joinGroups, hg], hc⟩

/-- The pieces of groups between colons are the texts of the groups. -/
lemma splitAll_joinGroups (g : UInt16) (gs : List UInt16) :
    splitAll ':' (joinGroups (g :: gs)) = (g :: gs).map groupChars := by
  induction gs generalizing g with
  | nil => exact splitAll_of_notMem (colon_notMem_groupChars g)
  | cons h gs ih =>
    rw [joinGroups, splitAll_append_cons (colon_notMem_groupChars g), ih, List.map_cons (a := g)]
    exact List.cons_ne_nil h gs

/-- Groups are read back from their texts. -/
lemma piecesOf?_map_groupChars (quad : Bool) (gs : List UInt16) :
    piecesOf? quad (gs.map groupChars) = some gs := by
  induction gs with
  | nil => rfl
  | cons g gs ih =>
    cases gs with
    | nil => simp [piecesOf?, group?_groupChars]
    | cons h gs =>
      rw [List.map_cons, piecesOf?, group?_groupChars, ih]
      · rfl
      · exact List.cons_ne_nil _ _

/-- **Groups are read back** from their text, whether or not a dotted quad may stand at the end.

**Proof sketch.** The text is not empty unless there are no groups. Splitting it at the colons gives
the texts of the groups, each of which is read back. -/
theorem groupsOf?_joinGroups (quad : Bool) (gs : List UInt16) :
    groupsOf? quad (joinGroups gs) = some gs := by
  cases gs with
  | nil => rfl
  | cons g gs =>
    have hne : joinGroups (g :: gs) ≠ [] := by
      obtain ⟨c, cs, hcs, -⟩ := exists_joinGroups_eq_cons g gs
      rw [hcs]
      exact List.cons_ne_nil c cs
    rw [groupsOf?, if_neg hne, splitAll_joinGroups, piecesOf?_map_groupChars]

/-! ## Where two colons meet -/

/-- Behind text without colons, two colons meet where they do in what stands there. -/
lemma cutAt_append {p : List Char} (hp : ':' ∉ p) (cs : List Char) :
    cutAt [':', ':'] (p ++ cs) =
      (cutAt [':', ':'] cs).map fun (front, back) => (p ++ front, back) := by
  induction p with
  | nil => simp
  | cons c p ih =>
    rw [List.mem_cons, not_or] at hp
    have hno : [':', ':'].isPrefixOf (c :: (p ++ cs)) = false := by simp [List.isPrefixOf, hp.1]
    rw [List.cons_append, cutAt, hno, ih hp.2]
    simp [Function.comp_def]

/-- A colon before anything else does not meet another. -/
lemma cutAt_colon {c : Char} (hc : c ≠ ':') (cs : List Char) :
    cutAt [':', ':'] (':' :: c :: cs) =
      (cutAt [':', ':'] (c :: cs)).map fun (front, back) => (':' :: front, back) := by
  have hno : [':', ':'].isPrefixOf (':' :: c :: cs) = false := by
    simp [List.isPrefixOf, Ne.symm hc]
  rw [cutAt, hno]
  rfl

/-- Behind the text of some groups, two colons meet where they do in what stands there.

**Proof sketch.** By induction on the groups. No group has a colon in its text, and behind the colon
that separates two groups stands a digit, so the two colons are not found before the end. -/
lemma cutAt_joinGroups (gs : List UInt16) (cs : List Char) :
    cutAt [':', ':'] (joinGroups gs ++ cs) =
      (cutAt [':', ':'] cs).map fun (front, back) => (joinGroups gs ++ front, back) := by
  induction gs with
  | nil => simp [joinGroups]
  | cons g gs ih =>
    cases gs with
    | nil => exact cutAt_append (colon_notMem_groupChars g) cs
    | cons h gs =>
      obtain ⟨c, ds, hds, hc, -⟩ := exists_joinGroups_eq_cons h gs
      rw [hds, List.cons_append] at ih
      rw [joinGroups, List.append_assoc, cutAt_append (colon_notMem_groupChars g), hds,
        List.cons_append, List.cons_append, cutAt_colon hc, ih]
      · simp [Function.comp_def]
      · exact List.cons_ne_nil h gs

/-! ## Addresses of eight groups -/

/-- Text with a character that is no hexadecimal digit is no number. -/
lemma hexFrom?_eq_none {c : Char} (hc : Bytes.hexValue? c = none) {cs : List Char} (h : c ∈ cs)
    (n : Nat) : hexFrom? n cs = none := by
  induction cs generalizing n with
  | nil => exact absurd h List.not_mem_nil
  | cons d cs ih =>
    rw [hexFrom?]
    rcases List.mem_cons.1 h with rfl | hcs
    · rw [hc, Option.bind_none]
    · cases Bytes.hexValue? d with
      | none => rfl
      | some m => exact ih hcs _

/-- A dotted quad is no group. -/
lemma group?_quad (v4 : Ipv4) : group? v4.chars = none := by
  have hdot : '.' ∈ v4.chars := by simp [Ipv4.chars]
  rw [group?, hexFrom?_eq_none (by decide) hdot]
  exact ite_self _

/-- The four-octet address at the end of an address that carries one is the one it carries.

**Proof sketch.** A group that is made of two octets has them as its high and its low half. -/
lemma lastOctets_carrying (marker : UInt16) (v4 : Ipv4) :
    (carrying marker v4).lastOctets = v4 := by
  obtain ⟨a, b, c, d⟩ := v4
  have hgroup (hi lo : UInt8) : (groupOf hi lo).toNat = 256 * hi.toNat + lo.toNat := by
    have hhi := hi.toNat_lt
    have hlo := lo.toNat_lt
    rw [groupOf, UInt16.toNat_ofNat']
    omega
  have hhigh (hi lo : UInt8) : UInt8.ofNat ((groupOf hi lo).toNat / 256) = hi := by
    have hlo := lo.toNat_lt
    rw [hgroup, show (256 * hi.toNat + lo.toNat) / 256 = hi.toNat by omega, UInt8.ofNat_toNat]
  have hlow (hi lo : UInt8) : UInt8.ofNat (groupOf hi lo).toNat = lo := by
    apply UInt8.toNat_inj.1
    have hlo := lo.toNat_lt
    rw [hgroup, UInt8.toNat_ofNat']
    omega
  simp only [lastOctets, carrying, hhigh, hlow]

/-- An address of five zero groups and a marker carries the four-octet address at its end. -/
lemma eq_carrying_lastOctets {ip : Ipv6} (h0 : ip.g0 = 0) (h1 : ip.g1 = 0) (h2 : ip.g2 = 0)
    (h3 : ip.g3 = 0) (h4 : ip.g4 = 0) : ip = carrying ip.g5 ip.lastOctets := by
  obtain ⟨g0, g1, g2, g3, g4, g5, g6, g7⟩ := ip
  simp only at h0 h1 h2 h3 h4
  subst h0 h1 h2 h3 h4
  simp only [carrying, lastOctets, groupOf_groupOctets]

/-- An address is mapped if it carries a four-octet address behind the marker for that.

**Proof sketch.** The groups that are compared are those of an address that carries another one
behind the marker; the rest of the address is its last four octets. -/
lemma mapped?_eq_some_iff {ip : Ipv6} {v4 : Ipv4} :
    ip.mapped? = some v4 ↔ ip = carrying 0xFFFF v4 := by
  constructor
  · intro h
    unfold mapped? at h
    split at h
    · rename_i hgroups
      obtain ⟨h0, h1, h2, h3, h4, h5⟩ := hgroups
      rw [← Option.some.inj h, ← h5]
      exact eq_carrying_lastOctets h0 h1 h2 h3 h4
    · exact nomatch h
  · rintro rfl
    rw [mapped?, if_pos ⟨rfl, rfl, rfl, rfl, rfl, rfl⟩, lastOctets_carrying]

/-- Where two colons meet, the groups on both sides are read, and zero groups stand between them. -/
lemma ofChars?_of_cutAt {cs front back : List Char} {fs bs : List UInt16}
    (hcut : cutAt [':', ':'] cs = some (front, back)) (hfront : groupsOf? false front = some fs)
    (hback : groupsOf? true back = some bs) (hlength : fs.length + bs.length ≤ 7) :
    ofChars? cs = ofGroups? (fs ++ List.replicate (8 - (fs.length + bs.length)) 0 ++ bs) := by
  unfold ofChars?
  rw [hcut]
  simp only [hfront, hback, Option.bind_eq_bind, Option.bind_some, if_pos hlength]

/-- A mapped address is read back from its text.

**Proof sketch.** The text is cut at its two colons, with nothing before them. Behind them stand the
marker and a dotted quad, as there is no colon in that, and both are read back. -/
lemma ofChars?_mapped (v4 : Ipv4) :
    ofChars? (':' :: ':' :: 'f' :: 'f' :: 'f' :: 'f' :: ':' :: v4.chars) =
      some (carrying 0xFFFF v4) := by
  have hcut : cutAt [':', ':'] (':' :: ':' :: 'f' :: 'f' :: 'f' :: 'f' :: ':' :: v4.chars) =
      some ([], 'f' :: 'f' :: 'f' :: 'f' :: ':' :: v4.chars) := by
    simp [cutAt, List.isPrefixOf]
  have hpieces : splitAll ':' ('f' :: 'f' :: 'f' :: 'f' :: ':' :: v4.chars) =
      [['f', 'f', 'f', 'f'], v4.chars] := by
    rw [← splitAll_of_notMem (Ipv4.colon_notMem_of_ofChars? (Ipv4.ofChars?_chars v4))]
    exact splitAll_append_cons (p := ['f', 'f', 'f', 'f']) (by decide) v4.chars
  have hmarker : group? ['f', 'f', 'f', 'f'] = some 0xFFFF := by decide
  have hback : groupsOf? true ('f' :: 'f' :: 'f' :: 'f' :: ':' :: v4.chars) =
      some [0xFFFF, groupOf v4.a v4.b, groupOf v4.c v4.d] := by
    rw [groupsOf?, if_neg (List.cons_ne_nil _ _), hpieces]
    simp [piecesOf?, hmarker, group?_quad, Ipv4.ofChars?_chars]
  rw [ofChars?_of_cutAt hcut rfl hback (by simp)]
  rfl

/-- An address whose groups are all written in hexadecimal is read back from its text.

**Proof sketch.** Without a run of zeros all groups are written and there are no two colons in a
row. With one, the text is cut at the two colons into the groups before and after it, and what the
colons stand for is as many zeros as are missing from eight groups, which is the length of the run.
-/
lemma ofChars?_compressed (ip : Ipv6) : ofChars? ip.compressed = some ip := by
  unfold compressed
  split
  · have hcut := cutAt_joinGroups ip.groups []
    rw [List.append_nil] at hcut
    unfold ofChars?
    rw [hcut]
    show (groupsOf? true (joinGroups ip.groups)).bind ofGroups? = some ip
    rw [groupsOf?_joinGroups, Option.bind_some, ofGroups?_groups]
  · rename_i start len hrun
    obtain ⟨hgroups, hlen⟩ := groups_eq_of_zeroRun hrun
    have height : ip.groups.length = 8 := rfl
    generalize ip.groups.take start = front at hgroups ⊢
    generalize ip.groups.drop (start + len) = back at hgroups ⊢
    -- What the two colons stand for is what the two sides leave of eight groups.
    have hlength : front.length + (len + back.length) = 8 := by
      rw [hgroups] at height
      simpa using height
    have hcut : cutAt [':', ':'] (joinGroups front ++ ':' :: ':' :: joinGroups back) =
        some (joinGroups front, joinGroups back) := by
      rw [cutAt_joinGroups]
      simp [cutAt, List.isPrefixOf]
    rw [ofChars?_of_cutAt hcut (groupsOf?_joinGroups _ _) (groupsOf?_joinGroups _ _) (by omega),
      show 8 - (front.length + back.length) = len by omega, List.append_assoc, ← hgroups,
      ofGroups?_groups]

/-- **An address of eight groups is read back** from its text.

**Proof sketch.** An address that carries another one behind its marker is written with a dotted
quad (`ofChars?_mapped`), and any other in groups only (`ofChars?_compressed`). -/
theorem ofChars?_chars (ip : Ipv6) : ofChars? ip.chars = some ip := by
  unfold chars
  cases hmapped : ip.mapped? with
  | none => exact ip.ofChars?_compressed
  | some v4 =>
    rw [mapped?_eq_some_iff.1 hmapped]
    exact ofChars?_mapped v4

/-- There is a colon in the text of an address of eight groups. -/
lemma colon_mem_chars (ip : Ipv6) : ':' ∈ ip.chars := by
  unfold chars
  split
  · exact List.mem_cons_self
  · unfold compressed
    split
    · simp [groups, joinGroups]
    · simp

/-- The text of an address of eight groups starts with a digit or a colon. -/
lemma head?_chars (ip : Ipv6) : ip.chars.head? ≠ some '[' := by
  have hgroups (gs : List UInt16) (cs : List Char) (hcs : cs.head? ≠ some '[') :
      (joinGroups gs ++ cs).head? ≠ some '[' := by
    cases gs with
    | nil => exact hcs
    | cons g gs =>
      obtain ⟨c, ds, hds, -, hc⟩ := exists_joinGroups_eq_cons g gs
      simpa [hds] using hc
  unfold chars
  split
  · simp
  · unfold compressed
    split
    · simpa using hgroups ip.groups [] (by simp)
    · exact hgroups _ _ (by simp)

end Ipv6

/-! ## Either kind -/

namespace Ip

/-- **An address is read back** from its text.

**Proof sketch.** A dotted quad is tried first, which reads back addresses of four octets. The text
of an address of eight groups has a colon, and so is no dotted quad. -/
theorem ofChars?_chars (ip : Ip) : ofChars? ip.chars = some ip := by
  cases ip with
  | v4 ip => simp [ofChars?, chars, Ipv4.ofChars?_chars]
  | v6 ip =>
    have hquad : Ipv4.ofChars? ip.chars = none := by
      cases h : Ipv4.ofChars? ip.chars with
      | none => rfl
      | some v4 => exact absurd ip.colon_mem_chars (Ipv4.colon_notMem_of_ofChars? h)
    simp [ofChars?, chars, hquad, Ipv6.ofChars?_chars]

/-- The text of an address does not start with a bracket. -/
lemma head?_chars (ip : Ip) : ip.chars.head? ≠ some '[' := by
  cases ip with
  | v4 ip => exact ip.head?_chars
  | v6 ip => exact ip.head?_chars

/-- The text of an address is a literal of it. -/
theorem literal?_text (ip : Ip) : literal? ip.text = some ip := by
  rw [literal?, text, String.toList_ofList, unbracket_of_head? ip.head?_chars, ofChars?_chars]

/-- The text of an address in brackets is a literal of it. -/
theorem literal?_bracketed (ip : Ip) : literal? ("[" ++ ip.text ++ "]") = some ip := by
  have htext : ("[" ++ ip.text ++ "]").toList = '[' :: (ip.chars ++ [']']) := by simp [text]
  rw [literal?, htext, unbracket_bracketed, ofChars?_chars]

end Ip

end Sockets
