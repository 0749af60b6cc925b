/-
# Readers and the nodes they make

A reader takes some of the tokens in front of it, and the nodes of what it makes of them stand for
leaves of these tokens, in order.  `Parse.Takes depth before p nodes` says so of a reader `p` that
goes on behind nodes made `before`: what it makes has the nodes `nodes`, those from before among
them.

Every way in which readers are put together has its rule here, so that a proof about a rule of the
grammar follows that rule word by word.
-/

import DeclSearch.Proofs.Attempts
import DeclSearch.Proofs.Nodes
import DeclSearch.Python.Parse

namespace DeclSearch
namespace Python

/-- Whether nodes stand for some of the words of a list, in its order. -/
def Traces (nodes : List Node) (ts : List Token) : Prop :=
  List.SublistForall₂ (fun n t => n.Of t) nodes ts

/-- No nodes stand for some of any words. -/
theorem Traces.nil (ts : List Token) : Traces [] ts := List.SublistForall₂.nil

/-- Nodes stand for some of the words if they stand, one by one, for words that are chosen among
them in order. -/
theorem traces_iff {nodes : List Node} {ts : List Token} :
    Traces nodes ts ↔ ∃ chosen, List.Forall₂ (fun n t => n.Of t) nodes chosen ∧ chosen.Sublist ts :=
  List.sublistForall₂_iff

/-- What stands for some of the words in front and what stands for some of those behind is put
together. -/
theorem Traces.append {l l' : List Node} {ts ts' : List Token} (h : Traces l ts)
    (h' : Traces l' ts') : Traces (l ++ l') (ts ++ ts') := by
  rw [traces_iff] at h h' ⊢
  obtain ⟨chosen, hchosen, hsub⟩ := h
  obtain ⟨chosen', hchosen', hsub'⟩ := h'
  exact ⟨chosen ++ chosen', List.rel_append hchosen hchosen', hsub.append hsub'⟩

/-- Fewer nodes stand for some of the words, too. -/
theorem Traces.sublist {l l' : List Node} {ts : List Token} (h : Traces l ts) (hl : l'.Sublist l) :
    Traces l' ts := by
  induction h generalizing l' with
  | nil =>
    rw [List.sublist_nil.1 hl]
    exact .nil _
  | cons hof _ ih =>
    cases hl with
    | cons _ hl => exact .cons_right (ih hl)
    | cons_cons _ hl => exact .cons hof (ih hl)
  | cons_right _ ih => exact .cons_right (ih hl)

/-- Nodes that stand for some of the words stand for some of more words. -/
theorem Traces.trans_sublist {l : List Node} {ts ts' : List Token} (h : Traces l ts)
    (hts : ts.Sublist ts') : Traces l ts' := by
  obtain ⟨chosen, hchosen, hsub⟩ := traces_iff.1 h
  exact traces_iff.2 ⟨chosen, hchosen, hsub.trans hts⟩

/-- Every node stands for one of the words. -/
theorem Traces.exists_of_mem {l : List Node} {ts : List Token} (h : Traces l ts) {n : Node}
    (hn : n ∈ l) : ∃ t ∈ ts, n.Of t := by
  induction h with
  | nil => exact absurd hn List.not_mem_nil
  | cons hof _ ih =>
    obtain rfl | hn := List.mem_cons.1 hn
    · exact ⟨_, by simp, hof⟩
    · obtain ⟨t, ht, hof⟩ := ih hn
      exact ⟨t, by simp [ht], hof⟩
  | cons_right _ ih =>
    obtain ⟨t, ht, hof⟩ := ih hn
    exact ⟨t, by simp [ht], hof⟩

/-- Other nodes, each of which stands for every word that the one in its place stands for. -/
theorem Traces.imp {l l' : List Node} {ts : List Token} (h : Traces l ts)
    (hl : List.Forall₂ (fun n n' => ∀ t, Node.Of t n → Node.Of t n') l l') : Traces l' ts := by
  induction h generalizing l' with
  | nil =>
    cases hl
    exact .nil _
  | cons hof _ ih =>
    cases hl with
    | cons hn hl => exact .cons (hn _ hof) (ih hl)
  | cons_right _ ih => exact .cons_right (ih hl)

/-- Nodes of results that come one by one. -/
theorem Traces.flatMap {ι α : Type} {nodes : α → List Node} {leaves : ι → List Token} {l : List ι}
    {results : List α} (h : List.Forall₂ (fun i a => Traces (nodes a) (leaves i)) l results) :
    Traces (results.flatMap nodes) (l.flatMap leaves) := by
  induction h with
  | nil => exact .nil _
  | cons hfirst _ ih => exact hfirst.append ih

/-- What is read one by one. -/
theorem forall₂_of_mapM {ι α ε : Type} {read : ι → Except ε α} {l : List ι} {results : List α}
    (h : l.mapM read = .ok results) : List.Forall₂ (fun i a => read i = .ok a) l results := by
  have hmap := Except.mapM_eq_ok_iff.1 h
  rw [← List.forall₂_eq_eq_eq, List.forall₂_map_left_iff, List.forall₂_map_right_iff] at hmap
  exact hmap

/-- A node that stands for a word stands for that word alone. -/
theorem Traces.singleton {n : Node} {t : Token} (h : n.Of t) : Traces [n] [t] :=
  .cons h .nil

namespace Parse

variable {α β : Type} {depth : Nat} {before : List Node} {p q : Parse α} {ts : List Token}
  {nodes : α → List Node} {nodes' : β → List Node}

/-- What a reader makes of some tokens behind nodes made before. -/
def TakesAt (depth : Nat) (before : List Node) (ts : List Token) (p : Parse α)
    (nodes : α → List Node) : Prop :=
  ∀ a rest, p ts = .ok (a, rest) → ∃ used, ts = used ++ rest ∧
    ∀ seen, Traces before seen → Traces (nodes a) (seen ++ used.flatMap (Token.leaves depth))

/-- What a reader makes of any tokens behind nodes made before. -/
def Takes (depth : Nat) (before : List Node) (p : Parse α) (nodes : α → List Node) : Prop :=
  ∀ ts, TakesAt depth before ts p nodes

/-- What a reader makes by itself. -/
abbrev Reads (depth : Nat) (p : Parse α) (nodes : α → List Node) : Prop := Takes depth [] p nodes

/-- A reader of which only the tokens that it leaves matter. -/
abbrev Passes (depth : Nat) (p : Parse α) : Prop := Reads depth p fun _ => []

/-- Nothing is read, and the nodes made before are put in another form. -/
theorem Takes.pure_of_traces {a : α} (h : ∀ seen, Traces before seen → Traces (nodes a) seen) :
    Takes depth before (Pure.pure a) nodes := by
  intro ts b rest hb
  obtain ⟨rfl, rfl⟩ := Prod.mk.inj (Except.ok.inj hb)
  refine ⟨[], rfl, fun seen hseen => ?_⟩
  rw [List.flatMap_nil, List.append_nil]
  exact h seen hseen

/-- Nothing is read, and some of the nodes are kept. -/
theorem Takes.pure {a : α} (h : (nodes a).Sublist before) :
    Takes depth before (Pure.pure a) nodes :=
  .pure_of_traces fun _ hseen => hseen.sublist h

/-- A reader that halts makes nothing. -/
theorem takes_halt {why : Halt} : Takes depth before (halt why : Parse α) nodes :=
  fun _ _ _ h => nomatch h

/-- A reader that gives up may claim any nodes, since it makes nothing. -/
theorem takes_mismatch : Takes depth before (mismatch : Parse α) nodes := takes_halt

/-- A reader that reports may claim any nodes, since it makes nothing. -/
theorem takes_blame {ts : List Token} : Takes depth before (blame ts : Parse α) nodes := takes_halt

/-- **One reader behind another**, at some tokens: the second goes on behind the nodes of what the
first has made. -/
theorem TakesAt.bind {f : α → Parse β} (hp : TakesAt depth before ts p nodes)
    (hf : ∀ a, Takes depth (nodes a) (f a) nodes') : TakesAt depth before ts (p >>= f) nodes' := by
  intro b rest h
  obtain ⟨⟨a, after⟩, ha, h⟩ := Except.bind_eq_ok_iff.1 h
  obtain ⟨front, hts, hfront⟩ := hp a after ha
  obtain ⟨back, rfl, hback⟩ := hf a after b rest h
  subst hts
  refine ⟨front ++ back, by rw [List.append_assoc], fun seen hseen => ?_⟩
  rw [List.flatMap_append, ← List.append_assoc]
  exact hback _ (hfront seen hseen)

/-- **One reader behind another**, at any tokens. -/
theorem Takes.bind {f : α → Parse β} (hp : Takes depth before p nodes)
    (hf : ∀ a, Takes depth (nodes a) (f a) nodes') : Takes depth before (p >>= f) nodes' :=
  fun ts => (hp ts).bind hf

/-- What a reader makes by itself, it makes behind other nodes. -/
theorem Reads.behind (hp : Reads depth p nodes) (before : List Node) :
    Takes depth before p fun a => before ++ nodes a := by
  intro ts a rest h
  obtain ⟨used, hused, hnodes⟩ := hp ts a rest h
  exact ⟨used, hused, fun seen hseen => hseen.append (hnodes [] (.nil []))⟩

/-- A first part, whose nodes come behind the others. -/
theorem Takes.read {f : α → Parse β} (hp : Reads depth p nodes)
    (hf : ∀ a, Takes depth (before ++ nodes a) (f a) nodes') :
    Takes depth before (p >>= f) nodes' :=
  (hp.behind before).bind hf

/-- Fewer nodes of what a reader makes. -/
theorem Takes.mono {nodes₀ : α → List Node} (hp : Takes depth before p nodes)
    (h : ∀ a, (nodes₀ a).Sublist (nodes a)) : Takes depth before p nodes₀ := by
  intro ts a rest ha
  obtain ⟨used, hused, hnodes⟩ := hp ts a rest ha
  exact ⟨used, hused, fun seen hseen => (hnodes seen hseen).sublist (h a)⟩

/-- A reader may keep less than it makes, and in the end nothing. -/
theorem Reads.passes (hp : Reads depth p nodes) : Passes depth p :=
  hp.mono fun _ => List.nil_sublist _

/-- The nodes from before stay where only the tokens that are left matter. -/
theorem Passes.behind (hp : Passes depth p) (before : List Node) :
    Takes depth before p fun _ => before :=
  (Reads.behind hp before).mono fun _ => by rw [List.append_nil]

/-- A first part of which only the tokens that it leaves matter. -/
theorem Takes.pass {f : α → Parse β} (hp : Passes depth p)
    (hf : ∀ a, Takes depth before (f a) nodes') : Takes depth before (p >>= f) nodes' :=
  (hp.behind before).bind hf

/-- The tokens themselves may be looked at. -/
theorem TakesAt.get {f : List Token → Parse β} (hf : TakesAt depth before ts (f ts) nodes') :
    TakesAt depth before ts (get >>= f) nodes' :=
  hf

/-- Behind a halt nothing is read. -/
theorem takes_halt_bind {why : Halt} {f : α → Parse β} :
    Takes depth before ((halt why : Parse α) >>= f) nodes' :=
  fun _ _ _ h => nomatch h

/-- A choice by something that is known beforehand, where both readers keep the same nodes. -/
theorem Takes.ite {c : Prop} [Decidable c] (hp : Takes depth before p nodes)
    (hq : Takes depth before q nodes) : Takes depth before (if c then p else q) nodes := by
  split
  · exact hp
  · exact hq

/-- A choice by a test of the next tokens. -/
theorem Takes.test {c : Parse Bool} (hc : Passes depth c) (hp : Takes depth before p nodes)
    (hq : Takes depth before q nodes) : Takes depth before (do if ← c then p else q) nodes :=
  .pass hc fun _ => .ite hp hq

/-- A first part that may be left out, and of which only the tokens that it leaves matter. -/
theorem Takes.optional {c : Prop} [Decidable c] {check : Parse Unit} {f : Unit → Parse β}
    (hcheck : Passes depth check) (hf : Takes depth before (f ()) nodes') :
    Takes depth before (if c then check >>= f else f ()) nodes' :=
  .ite (.pass hcheck fun _ => hf) hf

/-- What a reader makes may be dropped, where no nodes are kept anyway. -/
theorem Passes.discard (hp : Passes depth p) : Passes depth (discard p) :=
  .pass hp fun _ => .pure (.refl [])

/-- Where a reader fails, the nodes are those from before. -/
theorem Takes.attempt (hp : Takes depth before p nodes) :
    Takes depth before (attempt p) fun a => a.elim before nodes := by
  intro ts a rest h
  unfold Parse.attempt at h
  split at h
  · next b after hb =>
    obtain ⟨rfl, rfl⟩ := Prod.mk.inj (Except.ok.inj h)
    exact hp ts b after hb
  · obtain ⟨rfl, rfl⟩ := Prod.mk.inj (Except.ok.inj h)
    exact ⟨[], rfl, fun seen hseen => by simpa using hseen⟩
  · exact nomatch h

/-- A reader that may give up keeps the nodes of what it makes, if it makes anything. -/
theorem Reads.attempt (hp : Reads depth p nodes) :
    Reads depth (attempt p) fun a => a.toList.flatMap nodes :=
  (Takes.attempt hp).mono fun a => by cases a <;> simp

/-- A reader that is repeated keeps the nodes of what was made before, and behind them those of what
it makes.  The induction is on the fuel, which bounds the repetitions. -/
theorem Reads.manyOnto (hp : Reads depth p nodes) (done : List α) (fuel : Nat) :
    Takes depth (done.reverse.flatMap nodes) (manyOnto p done fuel) fun l => l.flatMap nodes := by
  induction fuel generalizing done with
  | zero => exact .pure (.refl _)
  | succ fuel ih =>
    refine .read hp.attempt fun a => ?_
    rcases a with _ | a
    · exact .pure (by simp)
    · simpa using ih (a :: done)

/-- A reader that is repeated, perhaps not even once, keeps the nodes of all that it makes. -/
theorem Reads.many (hp : Reads depth p nodes) (fuel : Nat) :
    Reads depth (many fuel p) fun l => l.flatMap nodes :=
  hp.manyOnto [] fuel

/-- A reader that is repeated at least once keeps the nodes of all that it makes. -/
theorem Reads.atLeastOne (hp : Reads depth p nodes) (fuel : Nat) :
    Reads depth (atLeastOne fuel p) fun l => l.flatMap nodes := by
  refine .bind hp fun a => ?_
  simpa using hp.manyOnto [a] fuel

/-- Taking a token, of which nothing is kept. -/
theorem passes_next : Passes depth next := by
  intro ts a rest h
  rcases ts with _ | ⟨t, ts⟩
  · exact nomatch h
  · obtain ⟨rfl, rfl⟩ := Prod.mk.inj (Except.ok.inj h)
    exact ⟨[t], rfl, fun seen _ => .nil _⟩

/-- A reader that takes nothing, whatever it comes to. -/
theorem passes_of_stays (h : ∀ ts a rest, p ts = .ok (a, rest) → rest = ts) : Passes depth p := by
  intro ts a rest ha
  obtain rfl := h ts a rest ha
  exact ⟨[], rfl, fun seen _ => .nil _⟩

/-- Looking at all tokens keeps no nodes. -/
theorem passes_get : Passes depth get :=
  passes_of_stays fun _ _ _ h => (Prod.mk.inj (Except.ok.inj h)).2.symm

/-- Looking at the next token keeps no nodes. -/
theorem passes_peekToken : Passes depth peekToken := by
  refine passes_of_stays fun ts t rest h => ?_
  rcases ts with _ | ⟨t', ts⟩
  · exact nomatch h
  · exact (Prod.mk.inj (Except.ok.inj h)).2.symm

/-- Looking at the next word keeps no nodes. -/
theorem passes_peek : Passes depth peek :=
  .pass passes_peekToken fun _ => .pure (.refl [])

/-- Looking at the word behind the next one keeps no nodes. -/
theorem passes_peekSecond : Passes depth peekSecond := by
  refine passes_of_stays fun ts w rest h => ?_
  rcases ts with _ | ⟨t, _ | ⟨t', ts⟩⟩
  · exact nomatch h
  · exact nomatch h
  · exact (Prod.mk.inj (Except.ok.inj h)).2.symm

/-- Trying a reader takes nothing. -/
theorem passes_tryOn {start : List Token} {q : Parse β} : Passes depth (tryOn start q) := by
  refine passes_of_stays fun ts result rest h => ?_
  unfold tryOn at h
  split at h
  · exact (Prod.mk.inj (Except.ok.inj h)).2.symm
  · exact (Prod.mk.inj (Except.ok.inj h)).2.symm
  · exact nomatch h

/-- Asking whether a reader would do keeps no nodes, whatever that reader keeps. -/
theorem passes_isAhead {q : Parse β} : Passes depth (isAhead q) :=
  .pass passes_get fun _ => .pass passes_tryOn fun _ => .pure (.refl [])

/-- A word is only taken where it stands. -/
theorem cons_of_word {w : Word} {rest : List Token} {t : Token}
    (h : word w ts = .ok (t, rest)) : ts = t :: rest ∧ t.word = w := by
  obtain ⟨⟨head, after⟩, hnext, h⟩ := Except.bind_eq_ok_iff.1 h
  dsimp only at h
  split at h
  · next hw =>
    obtain ⟨rfl, rfl⟩ := Prod.mk.inj (Except.ok.inj h)
    rcases ts with _ | ⟨t, ts⟩
    · exact nomatch hnext
    · obtain ⟨rfl, rfl⟩ := Prod.mk.inj (Except.ok.inj hnext)
      exact ⟨rfl, hw⟩
  · exact nomatch h

/-- Taking a given word, of which nothing is kept. -/
theorem passes_word {w : Word} : Passes depth (word w) :=
  .pass passes_next fun _ => .ite (.pure (.refl [])) takes_mismatch

/-- A keyword may be kept as a node. -/
theorem reads_keyword {text : String} {node : Token → Node} (hnode : ∀ t, (node t).Of t) :
    Reads depth (keyword text) fun t => [node t] := by
  intro ts t rest h
  obtain ⟨rfl, hw⟩ := cons_of_word h
  refine ⟨[t], rfl, fun seen _ => ?_⟩
  rw [List.flatMap_singleton, Token.leaves_of_isLeaf (by rw [hw]; rfl)]
  exact (Traces.singleton (hnode t)).trans_sublist (List.sublist_append_right _ _)

/-- Asking for a sign keeps no nodes. -/
theorem passes_atSign {text : String} : Passes depth (atSign text) :=
  .pass passes_peek fun _ => .pure (.refl [])

/-- Asking for a keyword keeps no nodes. -/
theorem passes_atKeyword {text : String} : Passes depth (atKeyword text) :=
  .pass passes_peek fun _ => .pure (.refl [])

/-- Asking for one of some signs keeps no nodes. -/
theorem passes_atAnySign {texts : List String} : Passes depth (atAnySign texts) :=
  .pass passes_peek fun w => by split <;> exact .pure (.refl [])

/-- Taking one of some signs, of which nothing is kept. -/
theorem passes_anySign {texts : List String} : Passes depth (anySign texts) :=
  .test passes_atAnySign passes_next.discard takes_mismatch

/-- A name may be kept as a node. -/
theorem reads_name {node : Name → Node}
    (hnode : ∀ t id plain, t.word = .name id plain → (node ⟨id, plain, t.start, t.stop⟩).Of t) :
    Reads depth name fun m => [node m] := by
  intro ts m rest h
  obtain ⟨⟨t, after⟩, hnext, h⟩ := Except.bind_eq_ok_iff.1 h
  dsimp only at h
  obtain ⟨id, plain, hw⟩ : ∃ id plain, t.word = .name id plain := by
    cases hw : t.word with
    | name id plain => exact ⟨id, plain, rfl⟩
    | _ =>
      rw [hw] at h
      exact nomatch h
  rw [hw] at h
  obtain ⟨rfl, rfl⟩ := Prod.mk.inj (Except.ok.inj h)
  rcases ts with _ | ⟨t, ts⟩
  · exact nomatch hnext
  · obtain ⟨rfl, rfl⟩ := Prod.mk.inj (Except.ok.inj hnext)
    refine ⟨[t], rfl, fun seen _ => ?_⟩
    rw [List.flatMap_singleton, Token.leaves_of_isLeaf (by rw [hw]; rfl)]
    exact (Traces.singleton (hnode t id plain hw)).trans_sublist (List.sublist_append_right _ _)

/-- A name that is kept by where it starts. -/
theorem reads_nameStart : Reads depth name fun m => [.name m.id m.start] :=
  reads_name fun _ _ plain hw => ⟨⟨plain, hw⟩, rfl⟩

/-- A name that is kept by where it stops. -/
theorem reads_nameStop : Reads depth name fun m => [.attribute m.id m.stop] :=
  reads_name fun _ _ plain hw => ⟨⟨plain, hw⟩, rfl⟩

/-- A name that is kept without a place. -/
theorem reads_definedName : Reads depth name fun m => [.defined m.id] :=
  reads_name fun _ _ plain hw => ⟨plain, hw⟩

/-- Taking a name, of which nothing is kept. -/
theorem passes_name : Passes depth name := reads_nameStart.passes

/-- Asking for a name and a sign behind it keeps no nodes. -/
theorem passes_atNameAndSign {text : String} : Passes depth (atNameAndSign text) :=
  .pass passes_peek fun w => by
    split
    · exact .pass passes_peekSecond fun _ => .pure (.refl [])
    · exact .pure (.refl [])

/-- A choice by the next word, which every alternative may use. -/
theorem Takes.peeked {f : Word → Parse β}
    (hf : ∀ t ts, TakesAt depth before (t :: ts) (f t.word) nodes') :
    Takes depth before (peek >>= f) nodes' := by
  intro ts b rest h
  rcases ts with _ | ⟨t, ts⟩
  · exact nomatch h
  · exact hf t ts b rest h

/-- A choice by whether the next word is a sign, which the first alternative may use. -/
theorem Takes.testSign {text : String}
    (hp : ∀ t ts, t.word = .sign text → TakesAt depth before (t :: ts) p nodes)
    (hq : Takes depth before q nodes) :
    Takes depth before (do if ← atSign text then p else q) nodes := by
  rw [atSign, bind_assoc]
  refine .peeked fun t ts => ?_
  rw [pure_bind]
  by_cases hw : t.word = .sign text
  · simpa [hw] using hp t ts hw
  · simpa [hw] using hq (t :: ts)

/-- The next token, if it is a leaf, may be kept as a node. -/
theorem takesAt_next {t : Token} (hw : t.word.isLeaf) {node : Token → Node}
    (hnode : (node t).Of t) : TakesAt depth before (t :: ts) next fun t => before ++ [node t] := by
  intro a rest h
  obtain ⟨rfl, rfl⟩ := Prod.mk.inj (Except.ok.inj h)
  refine ⟨[t], rfl, fun seen hseen => ?_⟩
  rw [List.flatMap_singleton, Token.leaves_of_isLeaf hw]
  exact hseen.append (.singleton hnode)

/-- A word may be kept by where the next token starts. -/
theorem takesAt_word {w : Word} (hw : w.isLeaf) :
    TakesAt depth before ts (discard (word w)) fun _ =>
      before ++ [.opening ((ts.head?.map (·.start)).getD ⟨0, 0⟩)] := by
  intro a rest h
  obtain ⟨⟨t, after⟩, hword, h⟩ := Except.bind_eq_ok_iff.1 h
  obtain ⟨-, rfl⟩ := Prod.mk.inj (Except.ok.inj h)
  obtain ⟨rfl, rfl⟩ := cons_of_word hword
  refine ⟨[t], rfl, fun seen hseen => ?_⟩
  rw [List.flatMap_singleton, Token.leaves_of_isLeaf hw]
  exact hseen.append (.singleton rfl)

/-- Items with commas between them keep the nodes of the items. -/
theorem Reads.commaSeparated (hp : Reads depth p nodes) (fuel : Nat) :
    Reads depth (commaSeparated fuel p) fun l => l.flatMap nodes := by
  have hmore : Reads depth (do discard (sign ","); p) nodes :=
    .pass passes_word.discard fun _ => hp
  refine .bind hp fun a => ?_
  simpa using hmore.manyOnto [a] fuel

/-- Items with commas between them keep the nodes of the items, with a comma at the end or
without. -/
theorem Reads.commaList (hp : Reads depth p nodes) (fuel : Nat) :
    Reads depth (commaList fuel p) fun l => l.1.flatMap nodes :=
  .bind (hp.commaSeparated fuel) fun _ => .pass passes_word.attempt.passes fun _ => .pure (.refl _)

end Parse
end Python
end DeclSearch
