/-
# Plain text

What is left of a text for a reader that is no terminal: control sequences are taken
out.  A sequence is an escape character and an opening bracket, then any number of
digits, semicolons and question marks, then one letter of the basic alphabet.  An escape
character that starts no sequence stays, and what is left is not looked at again.

This is what click documents for its output function `echo`: styles are removed from a message
where the stream is no terminal.
-/

namespace DeclSearch
namespace Text

/-- Whether a character may stand between the bracket and the letter of a sequence. -/
def isSequenceParameter (c : Char) : Bool := c.isDigit || c = ';' || c = '?'

/-- What follows the control sequence at the start of a text, if there is one. -/
def afterSequence? : List Char → Option (List Char)
  | '\x1b' :: '[' :: rest =>
    match rest.dropWhile isSequenceParameter with
    | c :: after => if c.isAlpha then some after else none
    | [] => none
  | _ => none

/-- What stands behind a control sequence is shorter than the text. -/
theorem length_afterSequence? {cs after : List Char} (h : afterSequence? cs = some after) :
    after.length < cs.length := by
  unfold afterSequence? at h
  split at h
  · rename_i rest
    split at h
    · rename_i c after' hd
      split at h
      · obtain rfl := Option.some.inj h
        have := (List.dropWhile_sublist isSequenceParameter (l := rest)).length_le
        simp only [hd, List.length_cons] at this ⊢
        omega
      · simp at h
    · simp at h
  · simp at h

/-- Takes the sequences out of the rest of a text behind what is left of the text before
it, last character first. -/
def plainOnto (left : List Char) : List Char → List Char
  | [] => left.reverse
  | c :: rest =>
    match h : afterSequence? (c :: rest) with
    | some after =>
      have := length_afterSequence? h
      plainOnto left after
    | none => plainOnto (c :: left) rest
termination_by cs => cs.length
decreasing_by
  · exact this
  · simp

/-- A text without its control sequences. -/
def plain (s : String) : String := String.ofList (plainOnto [] s.toList)

end Text
end DeclSearch
