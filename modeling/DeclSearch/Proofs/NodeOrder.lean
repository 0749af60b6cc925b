/-
# The order of the nodes of a module

The nodes of a module stand for words of its text (`exists_token`).  Where no string inside another
one goes on over the end of a line (`stringsKeepLines`), these words are one behind the other
(`exists_written`); otherwise a reader may note a word in front of what precedes it.

So in such a module no two nodes start at one position, but an attribute is placed from where it
stops, by the length of its name, and a name in normal form may be longer than the text that it
stands for.  An attribute can therefore be placed where another word starts.  It is never placed
where a name of the same letters starts, or anything in front of that name
(`Written.not_mentionsAt_after`): each of the two has less than twice as many characters as there
are octets for it, so the two texts together are longer than the name.
-/

import DeclSearch.Proofs.ReadStatements

namespace DeclSearch
namespace Python

/-- Whether a node mentions a word at a position. -/
def Node.MentionsAt (n : Node) (word : String) (p : Position) : Prop :=
  ⟨word, p.line, p.column⟩ ∈ n.mentions

/-- A word is mentioned where the text of its node starts, or as many characters in front of where
it stops as the word has. -/
theorem Node.MentionsAt.eq_start_or {n : Node} {t : Token} {word : String} {p : Position}
    (h : n.MentionsAt word p) (hof : n.Of t) :
    p = t.start ∨ (∃ plain, t.word = .name word plain) ∧ p.line = t.stop.line ∧
      p.column + word.length = t.stop.column := by
  obtain ⟨line, column⟩ := p
  match n, hof, h with
  | .name id start, ⟨_, hstart⟩, h =>
    have hmention := List.mem_singleton.1 h
    simp only [Mention.mk.injEq, Int.natCast_inj] at hmention
    obtain ⟨-, rfl, rfl⟩ := hmention
    exact .inl hstart.symm
  | .attribute id stop, ⟨hword, hstop⟩, h =>
    have hmention := List.mem_singleton.1 h
    simp only [Mention.mk.injEq] at hmention
    obtain ⟨rfl, rfl, hcolumn⟩ := hmention
    subst hstop
    refine .inr ⟨hword, rfl, ?_⟩
    dsimp only at hcolumn ⊢
    omega
  | .imported i, hstart, h =>
    obtain ⟨part, -, hmention⟩ := List.mem_map.1 h
    simp only [Mention.mk.injEq, Int.natCast_inj] at hmention
    obtain ⟨-, rfl, rfl⟩ := hmention
    exact .inl (Eq.symm hstart)

/-- Words of a text, one behind the other, with the nodes that stand for them. -/
structure Written (words : List (Node × Token)) : Prop where
  of : ∀ w ∈ words, w.1.Of w.2
  sound : ∀ w ∈ words, w.2.Sound
  start_lt : ∀ w ∈ words, w.2.start.place < w.2.stop.place
  ordered : words.Pairwise fun v w => v.2.stop.place ≤ w.2.start.place

/-- **The nodes of a module** stand for words of its text. -/
theorem exists_token {content : Text.Bytes} {body : List Stmt} (h : statements? content = some body)
    {n : Node} (hn : n ∈ Stmt.nodesOf body) : ∃ t : Token, t.Sound ∧ n.Of t := by
  obtain ⟨source, -, hbody⟩ := exists_source_of_statements? h
  obtain ⟨tokens, depth, htokens, htraces⟩ := traces_of_parseModule hbody
  obtain ⟨stop, hfound⟩ := Lexer.found_tokensAt htokens
  obtain ⟨t, ht, hof⟩ := htraces.exists_of_mem hn
  obtain ⟨s, hs, hts⟩ := List.mem_flatMap.1 ht
  exact ⟨t, ((hfound.sound s (List.mem_reverse.2 hs)).leaves depth t hts).1, hof⟩

/-- Whether no string inside another one goes on over the end of a line, in a source file. -/
def stringsKeepLines (content : Text.Bytes) : Bool :=
  match (Encoding.source? content).map Lexer.tokens with
  | some (.ok tokens) => tokens.all Token.keepsLines
  | _ => true

/-- **The order of the nodes of a module.**  Where no string inside another one goes on over the end
of a line, they stand for words one behind the other. -/
theorem exists_written {content : Text.Bytes} {body : List Stmt}
    (h : statements? content = some body) (hlines : stringsKeepLines content) :
    ∃ words, Written words ∧ words.map Prod.fst = Stmt.nodesOf body := by
  obtain ⟨source, hsource, hbody⟩ := exists_source_of_statements? h
  obtain ⟨tokens, depth, htokens, htraces⟩ := traces_of_parseModule hbody
  have hkeeps : ∀ t ∈ tokens, t.keepsLines := by
    unfold stringsKeepLines at hlines
    rw [hsource, Option.map_some, htokens] at hlines
    exact List.all_eq_true.1 hlines
  obtain ⟨stop, hwords⟩ := inOrder_tokensAt htokens
  have hleaves := inOrder_leaves hwords hkeeps depth
  obtain ⟨chosen, hchosen, hsub⟩ := traces_iff.1 htraces
  obtain ⟨hlength, hof⟩ := List.forall₂_iff_zip.1 hchosen
  have hsnd : ((Stmt.nodesOf body).zip chosen).map Prod.snd = chosen :=
    List.map_snd_zip hlength.ge
  have hmem {w : Node × Token} (hw : w ∈ (Stmt.nodesOf body).zip chosen) :
      w.2 ∈ tokens.flatMap (Token.leaves depth) :=
    hsub.subset (hsnd ▸ List.mem_map_of_mem hw)
  refine ⟨(Stmt.nodesOf body).zip chosen, ⟨fun w hw => hof hw, fun w hw => ?_, fun w hw => ?_, ?_⟩,
    List.map_fst_zip hlength.le⟩
  · exact hleaves.sound _ (hmem hw)
  · exact (hleaves.sound _ (hmem hw)).start_lt (hleaves.words _ (hmem hw))
  · have hordered := hleaves.ordered.sublist hsub
    rw [← hsnd] at hordered
    exact List.pairwise_map.1 hordered

variable {before after : List (Node × Token)} {w : Node × Token} {word : String} {p : Position}

/-- No node in front of a word mentions anything where the word starts. -/
theorem Written.not_mentionsAt_before (h : Written (before ++ w :: after)) (hp : w.2.start = p) :
    ∀ v ∈ before, ¬ v.1.MentionsAt word p := by
  intro v hv hmention
  have hmem : v ∈ before ++ w :: after := List.mem_append_left _ hv
  have hlt := h.start_lt v hmem
  have hbefore : v.2.stop.place ≤ p.place :=
    hp ▸ (List.pairwise_append.1 h.ordered).2.2 v hv w List.mem_cons_self
  rcases hmention.eq_start_or (h.of v hmem) with rfl | ⟨⟨plain, hname⟩, hline, hcolumn⟩
  · exact absurd hbefore (not_le.2 hlt)
  · have hlength : word.length ≠ 0 := fun hzero =>
      ((h.sound v hmem).name word plain hname).1.ne_empty (String.length_eq_zero_iff.1 hzero)
    rw [Position.place_le_iff] at hbefore
    omega

/-- No node behind a name mentions the same word where the name starts, or in front of that. -/
theorem Written.not_mentionsAt_after (h : Written (before ++ w :: after))
    (hw : ∃ plain, w.2.word = .name word plain) (hp : p.place ≤ w.2.start.place) :
    ∀ v ∈ after, ¬ v.1.MentionsAt word p := by
  intro v hv hmention
  have hwmem : w ∈ before ++ w :: after := by simp
  have hmem : v ∈ before ++ w :: after :=
    List.mem_append_right before (List.mem_cons_of_mem w hv)
  have hlt := h.start_lt w hwmem
  have hbehind : w.2.stop.place ≤ v.2.start.place :=
    (List.pairwise_cons.1 (List.pairwise_append.1 h.ordered).2.1).1 v hv
  obtain ⟨plain, hw⟩ := hw
  rcases hmention.eq_start_or (h.of v hmem) with rfl | ⟨⟨plain', hname⟩, hline, hcolumn⟩
  · exact absurd (hp.trans_lt (hlt.trans_le hbehind)) (lt_irrefl _)
  · obtain ⟨-, hwline, hwlength⟩ := (h.sound w hwmem).name word plain hw
    obtain ⟨-, hvline, hvlength⟩ := (h.sound v hmem).name word plain' hname
    rw [Position.place_le_iff] at hp hbehind
    omega

variable {words : List (Node × Token)} {front back : List Node}

/-- No other node mentions a word where a node is a name of the same letters. -/
theorem Written.not_mentionsAt_of_name (hwords : Written words)
    (h : words.map Prod.fst = front ++ .name word p :: back) :
    ∀ n ∈ front ++ back, ¬ n.MentionsAt word p := by
  obtain ⟨before, behind, rfl, rfl, hbehind⟩ := List.map_eq_append_iff.1 h
  obtain ⟨w, after, rfl, hw, rfl⟩ := List.map_eq_cons_iff.1 hbehind
  have hof := hwords.of w (by simp)
  rw [hw] at hof
  obtain ⟨hname, hp⟩ := hof
  refine List.forall_mem_append.2 ⟨List.forall_mem_map.2 ?_, List.forall_mem_map.2 ?_⟩
  · exact hwords.not_mentionsAt_before hp
  · exact hwords.not_mentionsAt_after hname (by rw [hp])

/-- No node mentions the name of a class or a function where its statement starts. -/
theorem Written.not_mentionsAt_of_defined (hwords : Written words)
    (h : words.map Prod.fst = front ++ .opening p :: .defined word :: back) :
    ∀ n ∈ words.map Prod.fst, ¬ n.MentionsAt word p := by
  obtain ⟨before, behind, rfl, hfront, hbehind⟩ := List.map_eq_append_iff.1 h
  obtain ⟨o, behind, rfl, ho, hbehind⟩ := List.map_eq_cons_iff.1 hbehind
  obtain ⟨w, after, rfl, hw, rfl⟩ := List.map_eq_cons_iff.1 hbehind
  have hopening : o.2.start = p := by
    have hof := hwords.of o (by simp)
    rwa [ho] at hof
  have hname : ∃ plain, w.2.word = .name word plain := by
    have hof := hwords.of w (by simp)
    rwa [hw] at hof
  have hplace : p.place ≤ w.2.start.place := by
    obtain ⟨-, hordered, -⟩ := List.pairwise_append.1 hwords.ordered
    have hbehind := (List.pairwise_cons.1 hordered).1 w List.mem_cons_self
    exact hopening ▸ (hwords.start_lt o (by simp)).le.trans hbehind
  have hwords' : Written ((before ++ [o]) ++ w :: after) := by simpa using hwords
  intro n hn
  rw [h, List.mem_append, List.mem_cons, List.mem_cons, ← hfront] at hn
  rcases hn with hn | rfl | rfl | hn
  · obtain ⟨v, hv, rfl⟩ := List.mem_map.1 hn
    exact hwords.not_mentionsAt_before hopening v hv
  · exact List.not_mem_nil
  · exact List.not_mem_nil
  · obtain ⟨v, hv, rfl⟩ := List.mem_map.1 hn
    exact hwords'.not_mentionsAt_after hname hplace v hv

end Python
end DeclSearch
