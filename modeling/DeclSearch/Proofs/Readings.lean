/-
# What a command line is read as

Where every switch of a command can be called by its last name (`Command.isRegular`), the words of a
use are its switch's name and its operand, and reading them gives that use back, whatever stands
before and behind them (`Reading.readOnto_uses`).  Uses that fit their switches are then turned into
values without a complaint (`Arguments.ofReading_eq`), and what a command asks about a switch, that
it was used, its operands, its last operand or the number written there, can be read off the uses
themselves (`Arguments.isOn_ofUses`, `Arguments.texts_ofUses`, `Arguments.text?_ofUses`,
`Arguments.number?_ofUses`).
-/

import DeclSearch.CommandLine.Arguments
import DeclSearch.Proofs.Units
import Mathlib.Data.List.Basic

namespace DeclSearch
namespace CommandLine

/-- The words of a use: the last name of its switch, and its operand. -/
def Use.words (u : Use) : List String := u.switch.key :: u.operand.toList

/-- Whether a command is no group and each of its switches can be called by its last name. -/
def Command.isRegular (c : Command) : Bool :=
  !c.isGroup && c.switches.all fun s =>
    c.long? s.key = some s && Reading.isSwitchWord s.key && s.key ≠ "--" &&
      Reading.cutOperand s.key = (s.key, none)

/-- What makes a use one of some switches: the switch is among them, and the operand is one that it
takes. -/
structure Use.Fits (switches : List Switch) (u : Use) : Prop where
  known : u.switch ∈ switches
  operand_eq_none_iff : u.operand = none ↔ u.switch.operand = .nothing
  hasValue : (u.switch.operand.value u.operand).isOk

instance (switches : List Switch) (u : Use) : Decidable (u.Fits switches) :=
  decidable_of_iff
    (u.switch ∈ switches ∧ (u.operand = none ↔ u.switch.operand = .nothing) ∧
      (u.switch.operand.value u.operand).isOk)
    ⟨fun h => ⟨h.1, h.2.1, h.2.2⟩, fun h => ⟨h.known, h.operand_eq_none_iff, h.hasValue⟩⟩

variable {c : Command} {switches : List Switch}

/-- A use that fits some switches fits more of them. -/
theorem Use.Fits.mono {u : Use} (h : u.Fits switches) {others : List Switch}
    (hsub : switches ⊆ others) : u.Fits others :=
  ⟨hsub h.known, h.operand_eq_none_iff, h.hasValue⟩

/-- What it is that makes a command regular. -/
theorem Command.isRegular_iff :
    c.isRegular ↔ c.isGroup = false ∧ ∀ s ∈ c.switches,
      c.long? s.key = some s ∧ Reading.isSwitchWord s.key ∧ s.key ≠ "--" ∧
        Reading.cutOperand s.key = (s.key, none) := by
  simp [isRegular, and_assoc]

/-- The last names of the switches differ. -/
theorem Command.eq_of_key_eq (hc : c.isRegular) {s other : Switch} (hs : s ∈ c.switches)
    (hother : other ∈ c.switches) (h : s.key = other.key) : s = other := by
  obtain ⟨-, hswitches⟩ := isRegular_iff.1 hc
  have hlong := (hswitches s hs).1
  rw [h, (hswitches other hother).1] at hlong
  exact (Option.some.inj hlong).symm

namespace Reading

/-- A long name in a word says what its switch says, as no two switches share one. -/
theorem sayingOf_key (hc : c.isRegular) {s : Switch} (hs : s ∈ c.switches) :
    sayingOf c s.key = longSaying s s.key none := by
  obtain ⟨hlong, -, -, hcut⟩ := (Command.isRegular_iff.1 hc).2 s hs
  rw [sayingOf, hcut]
  dsimp only
  rw [hlong]

/-- A long name of a switch without operand is a use of it. -/
theorem longSaying_of_nothing {s : Switch} (h : s.operand = .nothing) (name : String) :
    longSaying s name none = .ok ⟨[⟨s, none⟩], none⟩ := by
  unfold longSaying
  rw [h]

/-- A long name of a switch with an operand waits for the operand in the next word. -/
theorem longSaying_of_ne_nothing {s : Switch} (h : s.operand ≠ .nothing) (name : String) :
    longSaying s name none = .ok ⟨[], some (name, s)⟩ := by
  unfold longSaying
  cases hoperand : s.operand with
  | nothing => exact absurd hoperand h
  | text | positive | choice => rfl

/-- **A use is read as itself.** -/
theorem readOnto_use (hc : c.isRegular) {u : Use} (hu : u.Fits c.switches) (done : Reading)
    (rest : List String) :
    readOnto c done (u.words ++ rest) = readOnto c { done with uses := done.uses ++ [u] } rest := by
  obtain ⟨s, operand⟩ := u
  obtain ⟨-, hswitch, hdashes, -⟩ := (Command.isRegular_iff.1 hc).2 s hu.known
  have hsaying := sayingOf_key hc hu.known
  cases operand with
  | none =>
    rw [longSaying_of_nothing (hu.operand_eq_none_iff.1 rfl)] at hsaying
    change readOnto c done (s.key :: rest) = _
    rw [readOnto, if_neg hdashes, if_pos hswitch, hsaying]
  | some operand =>
    have htakes : s.operand ≠ .nothing := fun h => nomatch hu.operand_eq_none_iff.2 h
    rw [longSaying_of_ne_nothing htakes] at hsaying
    change readOnto c done (s.key :: operand :: rest) = _
    rw [readOnto, if_neg hdashes, if_pos hswitch, hsaying]
    simp

/-- **Uses are read as themselves**, one after another, whatever words stand behind them. -/
theorem readOnto_uses (hc : c.isRegular) {uses : List Use} (huses : ∀ u ∈ uses, u.Fits c.switches)
    (done : Reading) (rest : List String) :
    readOnto c done (uses.flatMap Use.words ++ rest) =
      readOnto c { done with uses := done.uses ++ uses } rest := by
  induction uses generalizing done with
  | nil => simp
  | cons u uses ih =>
    obtain ⟨hu, hrest⟩ := List.forall_mem_cons.1 huses
    rw [List.flatMap_cons, List.append_assoc, readOnto_use hc hu, ih hrest]
    simp

/-- A word that is no switch is kept. -/
theorem readOnto_word (hc : c.isGroup = false) {word : String} (h : isSwitchWord word = false)
    (done : Reading) (rest : List String) :
    readOnto c done (word :: rest) =
      readOnto c { done with words := done.words ++ [word] } rest := by
  have hdashes : word ≠ "--" := by
    rintro rfl
    exact absurd h (by decide)
  rw [readOnto, if_neg hdashes, if_neg (by simp [h]), if_neg (by simp [hc])]

end Reading

/-- The value of a use that fits. -/
def Use.value (u : Use) : Value := (u.switch.operand.value u.operand).toOption.getD .on

/-- The uses of a switch. -/
def usesOf (uses : List Use) (s : Switch) : List Use := uses.filter (·.switch = s)

/-- The uses of a switch that count. -/
def counted (uses : List Use) (s : Switch) : List Use :=
  if s.isRepeatable then usesOf uses s else (usesOf uses s).getLast?.toList

/-- Whether a switch is used, by its last name. -/
def isUsed (uses : List Use) (key : String) : Bool := uses.any (·.switch.key = key)

/-- The operands of a switch, by its last name. -/
def operands (uses : List Use) (key : String) : List String :=
  (uses.filter (·.switch.key = key)).filterMap Use.operand

/-- The last operand of a switch, by its last name. -/
def lastOperand? (uses : List Use) (key : String) : Option String := (operands uses key).getLast?

/-- A switch is used in one list behind another if it is used in either. -/
theorem isUsed_append (uses more : List Use) (key : String) :
    isUsed (uses ++ more) key = (isUsed uses key || isUsed more key) :=
  List.any_append

/-- The operands in one list behind another are those of the one and then those of the other. -/
theorem operands_append (uses more : List Use) (key : String) :
    operands (uses ++ more) key = operands uses key ++ operands more key := by
  simp [operands]

/-- Uses of other switches give a switch no operand. -/
theorem operands_eq_nil {uses : List Use} {key : String} (h : ∀ u ∈ uses, u.switch.key ≠ key) :
    operands uses key = [] := by
  rw [operands, List.filter_eq_nil_iff.2 (by simpa using h)]
  rfl

/-- A switch of which no use has the key is not used. -/
theorem isUsed_eq_false {uses : List Use} {key : String} (h : ∀ u ∈ uses, u.switch.key ≠ key) :
    isUsed uses key = false := by
  rw [isUsed, List.any_eq_false]
  simpa using h

/-- The operand of a use that fits has the value that is taken for it. -/
theorem Use.Fits.value_eq {u : Use} (h : u.Fits switches) :
    u.switch.operand.value u.operand = .ok u.value := by
  have hvalue := h.hasValue
  rw [Use.value]
  rcases hgiven : u.switch.operand.value u.operand with e | v
  · rw [hgiven] at hvalue
    exact nomatch hvalue
  · rfl

/-- A use that fits has an operand if its switch takes one. -/
theorem Use.Fits.exists_operand {u : Use} (h : u.Fits switches)
    (htakes : u.switch.operand ≠ .nothing) : ∃ operand, u.operand = some operand :=
  Option.ne_none_iff_exists'.1 fun hnone => htakes (h.operand_eq_none_iff.1 hnone)

/-- Whether an operand is taken as a text. -/
def Operand.isText : Operand → Bool
  | .text _ | .choice _ => true
  | .nothing | .positive => false

/-- The value of a text is the operand itself. -/
theorem Use.Fits.text_value {u : Use} (h : u.Fits switches) (htext : u.switch.operand.isText) :
    ∃ w, u.operand = some w ∧ u.value = .text w := by
  have hvalue := h.value_eq
  cases hswitch : u.switch.operand with
  | nothing | positive =>
    rw [hswitch] at htext
    exact nomatch htext
  | text label =>
    obtain ⟨w, hw⟩ := h.exists_operand (by simp [hswitch])
    rw [hswitch, hw] at hvalue
    exact ⟨w, hw, (Except.ok.inj hvalue).symm⟩
  | choice words =>
    obtain ⟨w, hw⟩ := h.exists_operand (by simp [hswitch])
    rw [hswitch, hw, Operand.value] at hvalue
    split at hvalue
    · exact ⟨w, hw, (Except.ok.inj hvalue).symm⟩
    · exact nomatch hvalue

/-- The value of a positive number is the number that the operand reads as. -/
theorem Use.Fits.number_value {u : Use} (h : u.Fits switches)
    (hpositive : u.switch.operand = .positive) :
    ∃ w n, u.operand = some w ∧ Text.readInt? w = some n ∧ 1 ≤ n ∧ u.value = .number n := by
  have hvalue := h.value_eq
  obtain ⟨w, hw⟩ := h.exists_operand (by simp [hpositive])
  rw [hpositive, hw, Operand.value] at hvalue
  split at hvalue
  · exact nomatch hvalue
  · next n hread =>
    split at hvalue
    · exact nomatch hvalue
    · next hlarge => exact ⟨w, n, hw, hread, Int.not_lt.1 hlarge, (Except.ok.inj hvalue).symm⟩

/-- What the last item of a list gives is the last of what the items give, if each gives
something. -/
theorem getLast?_filterMap {α β : Type} {f : α → Option β} {l : List α}
    (h : ∀ a ∈ l, ∃ b, f a = some b) : (l.filterMap f).getLast? = l.getLast?.bind f := by
  rcases List.eq_nil_or_concat l with rfl | ⟨front, a, rfl⟩
  · rfl
  · obtain ⟨b, hb⟩ := h a (by simp)
    simp [hb]

namespace Arguments

/-- The arguments that uses and words make. -/
def ofUses (uses : List Use) (words : List String) : Arguments :=
  ⟨(used uses).map fun s => (s.key, (counted uses s).map Use.value), words⟩

/-- The switches that are used are those of the uses. -/
theorem mem_used_iff {uses : List Use} {s : Switch} : s ∈ used uses ↔ ∃ u ∈ uses, u.switch = s := by
  simp [used, List.mem_eraseDups]

/-- The uses of a switch are those among all uses. -/
theorem mem_usesOf_iff {uses : List Use} {s : Switch} {u : Use} :
    u ∈ usesOf uses s ↔ u ∈ uses ∧ u.switch = s := by
  simp [usesOf]

/-- The uses that count are uses of the switch. -/
theorem mem_of_mem_counted {uses : List Use} {s : Switch} {u : Use} (h : u ∈ counted uses s) :
    u ∈ uses ∧ u.switch = s := by
  refine mem_usesOf_iff.1 ?_
  unfold counted at h
  split at h
  · exact h
  · exact List.mem_of_getLast? (Option.mem_toList.1 h)

/-- The values of a switch are those of the uses that count, as every use fits. -/
theorem valuesOf_eq {uses : List Use} (huses : ∀ u ∈ uses, u.Fits c.switches) (s : Switch) :
    valuesOf uses s = .ok ((counted uses s).map Use.value) := by
  change (counted uses s).mapM (fun u =>
    (s.operand.value u.operand).mapError (Complaint.invalid s.names)) = _
  rw [Except.mapM_eq_ok_iff, List.map_map]
  refine List.map_congr_left fun u hu => ?_
  obtain ⟨hmem, rfl⟩ := mem_of_mem_counted hu
  rw [(huses u hmem).value_eq]
  rfl

/-- **Uses that fit make arguments**, with as many words as the command has parameters. -/
theorem ofReading_eq (hc : c.isRegular) {uses : List Use} (huses : ∀ u ∈ uses, u.Fits c.switches)
    {words : List String} (hwords : words.length = c.parameters.length) :
    ofReading c ⟨uses, words⟩ = .ok (ofUses uses words) := by
  obtain ⟨hgroup, -⟩ := Command.isRegular_iff.1 hc
  have hvalues : ((used uses).mapM fun s => do return (s.key, ← valuesOf uses s)) =
      (.ok ((used uses).map fun s => (s.key, (counted uses s).map Use.value)) :
        Except Complaint (List (String × List Value))) := by
    rw [Except.mapM_eq_ok_iff, List.map_map]
    refine List.map_congr_left fun s _ => ?_
    rw [valuesOf_eq huses]
    rfl
  have hcheck : checkWords c words = .ok () := by
    rw [checkWords, hgroup, List.drop_of_length_le (Nat.le_of_eq hwords.symm),
      List.drop_of_length_le (Nat.le_of_eq hwords)]
    rfl
  unfold ofReading
  rw [hvalues, hcheck]
  rfl

/-- The values of a switch are looked up under its key, as no two switches share one. -/
theorem lookup_keys (hc : c.isRegular) {l : List Switch} (hl : ∀ s ∈ l, s ∈ c.switches)
    (values : Switch → List Value) {s : Switch} (hs : s ∈ c.switches) :
    (l.map fun s => (s.key, values s)).lookup s.key = if s ∈ l then some (values s) else none := by
  induction l with
  | nil => rfl
  | cons other rest ih =>
    obtain ⟨hother, hrest⟩ := List.forall_mem_cons.1 hl
    rw [List.map_cons, List.lookup_cons, ih hrest]
    by_cases h : s = other
    · simp [h]
    · have hkey : (s.key == other.key) = false :=
        beq_eq_false_iff_ne.2 fun hkey => h (Command.eq_of_key_eq hc hs hother hkey)
      rw [hkey]
      simp [h]

/-- The values of a switch are those of its uses that count. -/
theorem get_ofUses (hc : c.isRegular) {uses : List Use} (huses : ∀ u ∈ uses, u.Fits c.switches)
    (words : List String) {s : Switch} (hs : s ∈ c.switches) :
    (ofUses uses words).get s.key = (counted uses s).map Use.value := by
  have hused : ∀ s ∈ used uses, s ∈ c.switches := by
    intro s hs
    obtain ⟨u, hu, rfl⟩ := mem_used_iff.1 hs
    exact (huses u hu).known
  rw [get, ofUses, lookup_keys hc hused _ hs]
  split
  · rfl
  · next hnot =>
    have hnone : counted uses s = [] := List.eq_nil_iff_forall_not_mem.2 fun u hu =>
      hnot (mem_used_iff.2 ⟨u, mem_of_mem_counted hu⟩)
    rw [hnone]
    rfl

/-- The uses of a switch are those that have its last name. -/
theorem usesOf_eq (hc : c.isRegular) {uses : List Use} (huses : ∀ u ∈ uses, u.Fits c.switches)
    {s : Switch} (hs : s ∈ c.switches) :
    usesOf uses s = uses.filter (·.switch.key = s.key) := by
  refine List.filter_congr fun u hu => decide_eq_decide.2 ⟨congrArg Switch.key, fun hkey => ?_⟩
  exact Command.eq_of_key_eq hc (huses u hu).known hs hkey

section Accessors

variable (hc : c.isRegular) {uses : List Use} (huses : ∀ u ∈ uses, u.Fits c.switches)
  (words : List String) {s : Switch} (hs : s ∈ c.switches)

include hc huses hs

/-- The last operand of a switch that takes one is that of its last use. -/
theorem lastOperand?_eq (htakes : s.operand ≠ .nothing) :
    lastOperand? uses s.key = (usesOf uses s).getLast?.bind Use.operand := by
  rw [lastOperand?, operands, ← usesOf_eq hc huses hs]
  refine getLast?_filterMap fun u hu => ?_
  obtain ⟨hmem, rfl⟩ := mem_usesOf_iff.1 hu
  exact (huses u hmem).exists_operand htakes

/-- **A switch is on if it is used.** -/
theorem isOn_ofUses : (ofUses uses words).isOn s.key = isUsed uses s.key := by
  have hown : (counted uses s).isEmpty = (usesOf uses s).isEmpty := by
    unfold counted
    split
    · rfl
    · cases usesOf uses s <;> simp
  rw [isOn, get_ofUses hc huses words hs, List.isEmpty_map, hown, usesOf_eq hc huses hs,
    isUsed, Bool.eq_iff_iff]
  simp

/-- The texts of a switch are the operands that count. -/
theorem texts_ofUses_eq (htext : s.operand.isText) :
    (ofUses uses words).texts s.key = (counted uses s).filterMap Use.operand := by
  rw [texts, get_ofUses hc huses words hs, List.filterMap_map]
  refine List.filterMap_congr fun u hu => ?_
  obtain ⟨hmem, rfl⟩ := mem_of_mem_counted hu
  obtain ⟨w, hoperand, hvalue⟩ := (huses u hmem).text_value htext
  simp [hoperand, hvalue]

/-- **The texts of a switch that adds up are its operands.** -/
theorem texts_ofUses (htext : s.operand.isText) (hrepeats : s.isRepeatable = true) :
    (ofUses uses words).texts s.key = operands uses s.key := by
  rw [texts_ofUses_eq hc huses words hs htext, counted, if_pos hrepeats,
    usesOf_eq hc huses hs, operands]

/-- **The text of a switch is its last operand.** -/
theorem text?_ofUses (htext : s.operand.isText) (hsingle : s.isRepeatable = false) :
    (ofUses uses words).text? s.key = lastOperand? uses s.key := by
  have htakes : s.operand ≠ .nothing := by
    intro h
    rw [h] at htext
    exact nomatch htext
  rw [text?, texts_ofUses_eq hc huses words hs htext, lastOperand?_eq hc huses hs htakes, counted,
    if_neg (by simp [hsingle])]
  rcases (usesOf uses s).getLast? with _ | u
  · rfl
  · rw [Option.toList_some, Option.bind_some, List.filterMap_cons]
    cases u.operand <;> rfl

/-- **The number of a switch is written in its last operand.** -/
theorem number?_ofUses (hpositive : s.operand = .positive) (hsingle : s.isRepeatable = false) :
    (ofUses uses words).number? s.key = (lastOperand? uses s.key).bind Text.readInt? := by
  have htakes : s.operand ≠ .nothing := by
    rw [hpositive]
    exact nofun
  rw [number?, get_ofUses hc huses words hs, lastOperand?_eq hc huses hs htakes, counted,
    if_neg (by simp [hsingle])]
  rcases hlast : (usesOf uses s).getLast? with _ | u
  · rfl
  · obtain ⟨hmem, rfl⟩ := mem_usesOf_iff.1 (List.mem_of_getLast? hlast)
    obtain ⟨w, n, hoperand, hread, -, hvalue⟩ := (huses u hmem).number_value hpositive
    simp [hoperand, hread, hvalue]

end Accessors

end Arguments
end CommandLine
end DeclSearch
