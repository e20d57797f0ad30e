/-!
# Reading from the front of a text

Steps that readers of small formats share: taking one given character or a given
beginning, of which the laws say that nothing else is lost, and setting aside the
case of ASCII letters.
-/

namespace HardwareIndex.Text

/-- What follows a given first character. -/
def dropChar? (c : Char) : List Char → Option (List Char)
  | [] => none
  | d :: rest => if d = c then some rest else none

/-- What follows a given beginning. -/
def dropPrefix? : List Char → List Char → Option (List Char)
  | [], cs => some cs
  | c :: pattern, cs => (dropChar? c cs).bind (dropPrefix? pattern)

/-- An ASCII letter in lower case; any other character as it is. -/
def lowerAscii (c : Char) : Char :=
  if 'A' ≤ c && c ≤ 'Z' then Char.ofNat (c.toNat + 32) else c

/-- A text with its ASCII letters in lower case. -/
def lowerAsciiAll (cs : List Char) : List Char :=
  cs.map lowerAscii

theorem dropChar?_eq_some {c : Char} {cs rest : List Char} (h : dropChar? c cs = some rest) :
    cs = c :: rest := by
  cases cs with
  | nil => simp [dropChar?] at h
  | cons d ds =>
    simp only [dropChar?] at h
    split at h
    · rename_i hd
      simp_all
    · simp at h

theorem dropPrefix?_eq_some {pattern cs rest : List Char}
    (h : dropPrefix? pattern cs = some rest) : cs = pattern ++ rest := by
  induction pattern generalizing cs with
  | nil => simpa [dropPrefix?] using h
  | cons c pattern ih =>
    simp only [dropPrefix?, Option.bind_eq_some_iff] at h
    obtain ⟨ds, hd, hr⟩ := h
    rw [dropChar?_eq_some hd, ih hr, List.cons_append]

end HardwareIndex.Text
