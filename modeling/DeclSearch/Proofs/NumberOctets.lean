/-
# The octets of numbers

A number literal is made of octets that are there, and no line feed is among them
(`clear_of_scan?`).  Every rule of the numbers reads on behind what was read before it, which is
what `Ends` says of a rule.
-/

import DeclSearch.Python.Number
import Mathlib.Data.List.Basic

namespace DeclSearch
namespace Python
namespace Number

/-- Whether the first `k` octets of a text are there, and no line feed is among them. -/
def IsClear (cs : List Char) (k : Nat) : Prop := k ≤ cs.length ∧ '\n' ∉ cs.take k

/-- No characters are free of breaks. -/
theorem IsClear.zero (cs : List Char) : IsClear cs 0 := ⟨Nat.zero_le _, by simp⟩

/-- Characters that are free of breaks are so together with others behind them. -/
theorem IsClear.add {cs : List Char} {j k : Nat} (hj : IsClear cs j) (hk : IsClear (cs.drop j) k) :
    IsClear cs (j + k) := by
  obtain ⟨hjle, hjmem⟩ := hj
  obtain ⟨hkle, hkmem⟩ := hk
  rw [List.length_drop] at hkle
  refine ⟨by omega, ?_⟩
  rw [List.take_add, List.mem_append]
  exact not_or.2 ⟨hjmem, hkmem⟩

/-- An octet that is no line feed. -/
theorem IsClear.cons {c : Char} {cs : List Char} {k : Nat} (hc : c ≠ '\n') (h : IsClear cs k) :
    IsClear (c :: cs) (k + 1) := by
  refine ⟨Nat.succ_le_succ h.1, ?_⟩
  rw [List.take_succ_cons, List.mem_cons]
  exact not_or.2 ⟨Ne.symm hc, h.2⟩

/-- Digits of a kind of which the line feed is none. -/
theorem clear_groupsFrom {isDigit : Char → Bool} (hfeed : isDigit '\n' = false) {size k : Nat}
    {due : Bool} {cs : List Char} (h : groupsFrom isDigit size due cs = some k) :
    ∃ n, k = size + n ∧ IsClear cs n := by
  induction cs generalizing size due with
  | nil =>
    rw [groupsFrom] at h
    split at h
    · exact nomatch h
    · exact ⟨0, (Option.some.inj h).symm, .zero []⟩
  | cons c rest ih =>
    rw [groupsFrom] at h
    split at h
    · next hdigit =>
      -- a digit
      obtain ⟨n, rfl, hn⟩ := ih h
      exact ⟨n + 1, by omega, hn.cons fun hc => by simp [hc, hfeed] at hdigit⟩
    split at h
    · exact nomatch h
    split at h
    · next hc =>
      -- an underscore between digits
      obtain ⟨n, rfl, hn⟩ := ih h
      exact ⟨n + 1, by omega, hn.cons (by rw [hc]; decide)⟩
    · exact ⟨0, (Option.some.inj h).symm, .zero _⟩

/-- A run of digits holds at least one. -/
theorem pos_of_groups {isDigit : Char → Bool} {k : Nat} {cs : List Char}
    (h : groups isDigit cs = some k) : 0 < k := by
  have hmore {cs : List Char} {size k : Nat} {due : Bool}
      (hk : groupsFrom isDigit size due cs = some k) : size ≤ k := by
    induction cs generalizing size due with
    | nil =>
      rw [groupsFrom] at hk
      split at hk
      · exact nomatch hk
      · exact Nat.le_of_eq (Option.some.inj hk)
    | cons c rest ih =>
      rw [groupsFrom] at hk
      split at hk
      · exact Nat.le_of_succ_le (ih hk)
      split at hk
      · exact nomatch hk
      split at hk
      · exact Nat.le_of_succ_le (ih hk)
      · exact Nat.le_of_eq (Option.some.inj hk)
  rcases cs with _ | ⟨c, rest⟩
  · exact nomatch h
  · rw [groups, groupsFrom] at h
    split at h
    · exact hmore h
    · exact nomatch h

/-- The end of a number, in front of which `size` octets were read: some octets more are there,
without a line feed. -/
def Ends (size : Nat) (cs : List Char) (read : Option Scan) : Prop :=
  ∀ scan, read = some scan → ∃ n, scan.size = size + n ∧ IsClear cs n

/-- Where no number is read there is no end. -/
theorem ends_none {size : Nat} {cs : List Char} : Ends size cs none := fun _ h => nomatch h

/-- A number may end where reading has come to. -/
theorem ends_some {size : Nat} {cs : List Char} {imaginary : Bool} :
    Ends size cs (some ⟨size, imaginary⟩) := by
  rintro scan h
  obtain rfl := Option.some.inj h
  exact ⟨0, rfl, .zero cs⟩

/-- A choice between two ends is an end. -/
theorem Ends.ite {size : Nat} {cs : List Char} {c : Prop} [Decidable c] {read read' : Option Scan}
    (h : Ends size cs read) (h' : Ends size cs read') :
    Ends size cs (if c then read else read') := by
  split
  · exact h
  · exact h'

/-- Behind octets that are there. -/
theorem Ends.add {size j : Nat} {cs : List Char} {read : Option Scan} (hj : IsClear cs j)
    (h : Ends (size + j) (cs.drop j) read) : Ends size cs read := by
  intro scan hscan
  obtain ⟨n, hsize, hn⟩ := h scan hscan
  exact ⟨j + n, by omega, hj.add hn⟩

/-- Behind an octet that is no line feed. -/
theorem Ends.cons {size : Nat} {c : Char} {cs : List Char} {read : Option Scan} (hc : c ≠ '\n')
    (h : Ends (size + 1) cs read) : Ends size (c :: cs) read :=
  .add ((IsClear.zero cs).cons hc) h

/-- Behind a run of digits. -/
theorem Ends.groups {isDigit : Char → Bool} (hfeed : isDigit '\n' = false) {size : Nat}
    {cs : List Char} {read : Nat → Option Scan}
    (h : ∀ n, Ends (size + n) (cs.drop n) (read n)) :
    Ends size cs (Number.groups isDigit cs >>= read) := by
  intro scan hscan
  obtain ⟨n, hn, hscan⟩ := Option.bind_eq_some_iff.1 hscan
  obtain ⟨k, rfl, hclear⟩ := clear_groupsFrom hfeed hn
  rw [Nat.zero_add] at hscan
  exact Ends.add hclear (h k) scan hscan

/-- With its suffix, if it has one, a number ends behind octets that are there, without a line
feed. -/
theorem ends_suffix (size : Nat) (cs : List Char) : Ends size cs (suffix size cs) := by
  unfold suffix
  split
  · exact .cons (by decide) (.ite ends_some ends_none)
  · exact .cons (by decide) (.ite ends_some ends_none)
  · exact .ite ends_some ends_none

/-- With its exponent, if it has one, a number ends behind octets that are there, without a line
feed. -/
theorem ends_exponent (size : Nat) (cs : List Char) : Ends size cs (exponent size cs) := by
  unfold exponent
  split
  · next e rest =>
    split
    · next he =>
      have hfeed : e ≠ '\n' := by rcases he with rfl | rfl <;> decide
      split
      · next s digits =>
        split
        · next hs =>
          -- with a sign in front of the digits
          have hfeed' : s ≠ '\n' := by rcases hs with rfl | rfl <;> decide
          exact .cons hfeed (.cons hfeed' (.groups (by decide) fun n => ends_suffix _ _))
        · exact .ite (.cons hfeed (.groups (by decide) fun n => ends_suffix _ _))
            (.ite ends_some ends_none)
      · exact ends_none
    · exact ends_suffix size _
  · exact ends_suffix size []

/-- With its fraction, if it has one, a number ends behind octets that are there, without a line
feed. -/
theorem ends_fraction (size : Nat) (cs : List Char) : Ends size cs (fraction size cs) :=
  .ite (.groups (by decide) fun _ => ends_exponent _ _) (ends_exponent size cs)

/-- A number to another base ends behind octets that are there, without a line feed. -/
theorem ends_based {isDigit : Char → Bool} (hfeed : isDigit '\n' = false) (cs : List Char) :
    Ends 2 cs (based isDigit cs) := by
  have hskipped : IsClear cs (if cs.head? = some '_' then 1 else 0) := by
    split
    · next hhead =>
      obtain ⟨rest, rfl⟩ := List.head?_eq_some_iff.1 hhead
      exact (IsClear.zero rest).cons (by decide)
    · exact .zero cs
  exact .add hskipped (.groups hfeed fun n => .ite ends_none ends_some)

/-- A number behind octets that were read is not empty. -/
theorem Ends.clear {size : Nat} (front : List Char) {cs : List Char} {read : Option Scan}
    {scan : Scan} (h : Ends size cs read) (hread : read = some scan) (hfront : '\n' ∉ front)
    (hsize : size = front.length) (hne : front ≠ []) :
    0 < scan.size ∧ IsClear (front ++ cs) scan.size := by
  obtain ⟨n, hscan, hn⟩ := h scan hread
  have hpos := List.length_pos_iff.2 hne
  have hclear : IsClear (front ++ cs) front.length := by
    refine ⟨by rw [List.length_append]; omega, ?_⟩
    rwa [List.take_left]
  rw [hscan, hsize]
  exact ⟨by omega, hclear.add (by rwa [List.drop_left])⟩

/-- A decimal number starts with digits. -/
theorem clear_of_decimal {cs : List Char} {scan : Scan} (h : decimal cs = some scan) :
    0 < scan.size ∧ IsClear cs scan.size := by
  obtain ⟨n, hn, h⟩ := Option.bind_eq_some_iff.1 h
  obtain ⟨k, hk, hclear, hmem⟩ := clear_groupsFrom (by decide) hn
  rw [Nat.zero_add] at hk
  subst hk
  have hpos := pos_of_groups hn
  have hbehind : ∃ read, Ends n (cs.drop n) read ∧ read = some scan := by
    dsimp only at h
    split at h
    · next more hmore =>
      exact ⟨fraction (n + 1) more, hmore ▸ (ends_fraction (n + 1) more).cons (by decide), h⟩
    · obtain ⟨scan', hscan', h⟩ := Option.bind_eq_some_iff.1 h
      split at h
      · exact nomatch h
      · obtain rfl := Option.some.inj h
        exact ⟨_, ends_exponent n _, hscan'⟩
  obtain ⟨read, hends, hread⟩ := hbehind
  have hresult := hends.clear _ hread hmem (by rw [List.length_take]; omega)
    fun hnil => by
      have hlength := congrArg List.length hnil
      rw [List.length_take, List.length_nil] at hlength
      omega
  rwa [List.take_append_drop] at hresult

/-- **Numbers.**  The octets of a number are there, and no line feed is among them. -/
theorem clear_of_scan? {cs : List Char} {scan : Scan} (h : scan? cs = some scan) :
    0 < scan.size ∧ IsClear cs scan.size := by
  have hbased {isDigit : Char → Bool} (hfeed : isDigit '\n' = false) {letter : Char}
      (hletter : letter ≠ '\n') {rest : List Char} (h : based isDigit rest = some scan) :
      0 < scan.size ∧ IsClear ('0' :: letter :: rest) scan.size := by
    refine (ends_based hfeed rest).clear ['0', letter] h ?_ rfl (by simp)
    simpa using hletter.symm
  unfold scan? at h
  split at h
  · next rest => exact (ends_fraction 1 rest).clear ['.'] h (by decide) rfl (by decide)
  · exact hbased (by decide) (by decide) h
  · exact hbased (by decide) (by decide) h
  · exact hbased (by decide) (by decide) h
  · exact hbased (by decide) (by decide) h
  · exact hbased (by decide) (by decide) h
  · exact hbased (by decide) (by decide) h
  · exact clear_of_decimal h

end Number

end Python
end DeclSearch
