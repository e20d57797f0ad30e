/-!
# Host labels in ASCII

A label of a host name with characters outside ASCII is written in ASCII: the
ASCII characters first, then, in ascending order of their codes, where each of
the others goes, as numbers of variable length in base 36. The thresholds at
which a number ends follow a bias that adapts to the numbers written before.
`encode` writes a label and `decode?` reads what follows the mark `xn--` of one.
A number that is written is read again: `number?_number`.
-/

namespace HardwareIndex.Punycode

/-- The digit of a value below 36. -/
def digit (n : Nat) : Char :=
  if n < 26 then Char.ofNat (97 + n) else Char.ofNat (22 + n)

/-- The threshold of the digit at position `k`. -/
def threshold (bias k : Nat) : Nat :=
  if k ≤ bias then 1 else if bias + 26 ≤ k then 26 else k - bias

theorem one_le_threshold (bias k : Nat) : 1 ≤ threshold bias k := by
  grind [threshold]

theorem threshold_le (bias k : Nat) : threshold bias k ≤ 26 := by
  grind [threshold]

/-- A number in digits of variable threshold, the first at position `k`. -/
def number (bias k n : Nat) : List Char :=
  let t := threshold bias k
  if n < t then [digit n]
  else digit (t + (n - t) % (36 - t)) :: number bias (k + 36) ((n - t) / (36 - t))
termination_by n
decreasing_by
  have h := one_le_threshold bias k
  have h' := Nat.div_le_self (n - threshold bias k) (36 - threshold bias k)
  omega

/-- The bias of a scaled difference, `k` steps on. -/
def settle (k delta : Nat) : Nat :=
  if 455 < delta then settle (k + 36) (delta / 35) else k + 36 * delta / (delta + 38)
termination_by delta

/-- The bias after a difference, with the number of characters placed so far. -/
def adapt (delta placed : Nat) (isFirst : Bool) : Nat :=
  let scaled := if isFirst then delta / 700 else delta / 2
  settle 0 (scaled + scaled / placed)

/-- What has been written of a label. -/
structure Writer where
  /-- Positions passed since the last character that was placed. -/
  delta : Nat
  bias : Nat
  /-- Characters placed. -/
  placed : Nat
  written : List Char

/-- Pass one character of the label while those of a code are placed. -/
def Writer.pass (code basic : Nat) (w : Writer) (c : Char) : Writer :=
  if c.toNat < code then { w with delta := w.delta + 1 }
  else if c.toNat = code then
    { delta := 0
      bias := adapt w.delta (w.placed + 1) (w.placed == basic)
      placed := w.placed + 1
      written := w.written ++ number w.bias 36 w.delta }
  else w

/-- Place the characters of the given codes, which ascend from `next` on. -/
def place (label : List Char) (basic next : Nat) (w : Writer) : List Nat → Writer
  | [] => w
  | code :: rest =>
    let w := { w with delta := w.delta + (code - next) * (w.placed + 1) }
    let w := label.foldl (Writer.pass code basic) w
    place label basic (code + 1) { w with delta := w.delta + 1 } rest

/-- Whether a character is ASCII. -/
def isAscii (c : Char) : Bool :=
  c.toNat < 128

/-- What marks a label that stands for one with characters outside ASCII. -/
def mark : List Char := "xn--".toList

/-- A label in ASCII; one that is ASCII already is as it is. -/
def encode (label : List Char) : List Char :=
  if label.all isAscii then label
  else
    let basic := label.filter isAscii
    let codes := ((label.filter (!isAscii ·)).map Char.toNat).mergeSort.eraseDups
    let start : Writer := ⟨0, 72, basic.length, []⟩
    let head := if basic.isEmpty then [] else basic ++ ['-']
    mark ++ head ++ (place label basic.length 128 start codes).written

/-- The value of a digit, in either case of its letter. -/
def value? (c : Char) : Option Nat :=
  if 97 ≤ c.toNat ∧ c.toNat < 123 then some (c.toNat - 97)
  else if 65 ≤ c.toNat ∧ c.toNat < 91 then some (c.toNat - 65)
  else if 48 ≤ c.toNat ∧ c.toNat < 58 then some (c.toNat - 22)
  else none

theorem value?_digit : ∀ n < 36, value? (digit n) = some n := by
  decide

/-- Numbers and weights stay below this. -/
def limit : Nat := 0x100000000

/-- The number at the front added to `sum`, with what follows it, the first digit at
    position `k` and of the given weight. -/
def number? (bias k weight sum : Nat) : List Char → Option (Nat × List Char)
  | [] => none
  | c :: rest =>
    match value? c with
    | none => none
    | some d =>
      let t := threshold bias k
      if limit ≤ sum + d * weight then none
      else if d < t then some (sum + d * weight, rest)
      else if limit ≤ weight * (36 - t) then none
      else number? bias (k + 36) (weight * (36 - t)) (sum + d * weight) rest

theorem number?_length {bias k weight sum n : Nat} {cs rest : List Char}
    (h : number? bias k weight sum cs = some (n, rest)) : rest.length < cs.length := by
  fun_induction number? bias k weight sum cs <;> grind

/-- Place the characters that numbers write among those placed so far; `code` is the
    code of the last one and `position` the place after it. -/
def insertAll? (bias code position : Nat) (label : List Char) : List Char → Option (List Char)
  | [] => some label
  | c :: cs =>
    match _h : number? bias 36 1 position (c :: cs) with
    | none => none
    | some (n, rest) =>
      let placed := label.length + 1
      let code := code + n / placed
      let bias := adapt (n - position) placed (position == 0)
      if code.isValidChar then
        insertAll? bias code (n % placed + 1) (label.insertIdx (n % placed) (Char.ofNat code)) rest
      else none
termination_by cs => cs.length
decreasing_by exact number?_length (by assumption)

/-- The ASCII characters and the numbers of an encoded label: they are parted by its last
    hyphen, unless the label starts with it. -/
def splitBasic (cs : List Char) : List Char × List Char :=
  let numbers := (cs.reverse.takeWhile (· != '-')).reverse
  let basic := cs.take (cs.length - numbers.length - 1)
  if basic.isEmpty then ([], cs) else (basic, numbers)

/-- The label that is written after the mark, if one is. -/
def decode? (cs : List Char) : Option (List Char) :=
  let (basic, numbers) := splitBasic cs
  insertAll? 72 128 0 basic numbers

/-- Reading a number gives what was written, whatever follows it, as long as it stays
    well below the limit. -/
theorem number?_number {bias k weight sum n : Nat} {rest : List Char}
    (hn : 35 * (sum + n * weight) < limit) :
    number? bias k weight sum (number bias k n ++ rest) = some (sum + n * weight, rest) := by
  fun_induction number bias k n generalizing weight sum
  · rename_i k n t hlt
    have hd : value? (digit n) = some n := value?_digit n (by have := threshold_le bias k; omega)
    simp only [List.cons_append, List.nil_append, number?, hd]
    rw [if_neg (by omega), if_pos hlt]
  · rename_i k n t hge ih
    have h1 : 1 ≤ t := one_le_threshold bias k
    have h26 : t ≤ 26 := threshold_le bias k
    have hr : (n - t) % (36 - t) < 36 - t := Nat.mod_lt _ (by omega)
    have hd : value? (digit (t + (n - t) % (36 - t))) = some (t + (n - t) % (36 - t)) :=
      value?_digit _ (by omega)
    have hsum : t + (n - t) % (36 - t) + (n - t) / (36 - t) * (36 - t) = n := by
      have := Nat.mod_add_div' (n - t) (36 - t)
      omega
    have hmul : sum + (t + (n - t) % (36 - t)) * weight +
        (n - t) / (36 - t) * (weight * (36 - t)) = sum + n * weight := by
      rw [Nat.mul_comm weight, ← Nat.mul_assoc, Nat.add_assoc, ← Nat.add_mul, hsum]
    have hle : weight ≤ n * weight := Nat.le_mul_of_pos_left _ (by omega)
    have hw : weight * (36 - t) ≤ weight * 35 := Nat.mul_le_mul_left _ (by omega)
    rw [List.cons_append, number?, hd]
    simp only
    rw [if_neg (by omega), if_neg (show ¬ t + (n - t) % (36 - t) < t by omega),
      if_neg (show ¬ limit ≤ weight * (36 - t) by omega), ih (by rw [hmul]; exact hn), hmul]

end HardwareIndex.Punycode
