/-!
# Punycode

The ASCII form of a label with other characters: its ASCII characters, then the positions and code
points of the others as differences, in increasing order of the code points. A difference is written
with digits of the base 36; a threshold, which adapts to the differences seen, says which digit is
the last one.

* `Punycode.encode`, `Punycode.decode?`.
-/

namespace Flowline.Url.Punycode

/-- The digits: letters, then numerals. -/
def digit (n : Nat) : Char :=
  if n < 26 then Char.ofNat (97 + n) else Char.ofNat (22 + n)

def digitValue? (c : Char) : Option Nat :=
  if 'a' ≤ c ∧ c ≤ 'z' then some (c.toNat - 97)
  else if 'A' ≤ c ∧ c ≤ 'Z' then some (c.toNat - 65)
  else if '0' ≤ c ∧ c ≤ '9' then some (c.toNat - 22)
  else none

/-- A digit below the threshold is the last one. -/
def threshold (k bias : Nat) : Nat :=
  if k ≤ bias then 1 else if bias + 26 ≤ k then 26 else k - bias

theorem threshold_bounds (k bias : Nat) : 1 ≤ threshold k bias ∧ threshold k bias ≤ 26 := by
  unfold threshold
  split
  · omega
  · split <;> omega

/-- Scales a difference down, counting the steps in units of 36. -/
def scaleDown (delta k : Nat) : Nat :=
  if 455 < delta then scaleDown (delta / 35) (k + 36)
  else k + 36 * delta / (delta + 38)
termination_by delta
decreasing_by exact Nat.div_lt_self (by omega) (by omega)

/-- The bias after a difference, with `count` characters placed. -/
def adapt (delta count : Nat) (first : Bool) : Nat :=
  let scaled := if first then delta / 700 else delta / 2
  scaleDown (scaled + scaled / count) 0

/-- A difference as digits, the least significant first. -/
def encodeDelta (bias k q : Nat) : List Char :=
  let t := threshold k bias
  if q < t then [digit q]
  else digit (t + (q - t) % (36 - t)) :: encodeDelta bias (k + 36) ((q - t) / (36 - t))
termination_by q
decreasing_by
  have ht := threshold_bounds k bias
  have hdiv := Nat.div_le_self (q - threshold k bias) (36 - threshold k bias)
  omega

/-- What encoding has written, and the numbers that the next difference depends on. -/
structure Progress where
  output : List Char
  delta : Nat
  bias : Nat
  placed : Nat

/-- Passes a character of the label while placing the code point `n`. -/
def visit (basic n : Nat) (p : Progress) (c : Char) : Progress :=
  if c.toNat < n then { p with delta := p.delta + 1 }
  else if c.toNat = n then
    { output := p.output ++ encodeDelta p.bias 36 p.delta
      delta := 0
      bias := adapt p.delta (p.placed + 1) (p.placed == basic)
      placed := p.placed + 1 }
  else p

/-- Places code points in increasing order; `n` is the first one not placed yet. -/
def place (label : List Char) (basic : Nat) : List Nat → Nat → Progress → Progress
  | [], _, p => p
  | m :: rest, n, p =>
    let start := { p with delta := p.delta + (m - n) * (p.placed + 1) }
    let after := label.foldl (visit basic m) start
    place label basic rest (m + 1) { after with delta := after.delta + 1 }

def isAscii (c : Char) : Bool :=
  c.toNat < 0x80

/-- The ASCII form of a label. -/
def encode (label : List Char) : List Char :=
  let basic := label.filter isAscii
  let others := ((label.filter fun c => !isAscii c).map Char.toNat).mergeSort.eraseDups
  let lead := if basic.isEmpty then [] else basic ++ ['-']
  lead ++ (place label basic.length others 128 ⟨[], 0, 72, basic.length⟩).output

/-- Differences and the weights of their digits are numbers of 32 bits. -/
def deltaLimit : Nat := 0x100000000

/-- Reads a difference: its value added to `i`, and what follows. -/
def decodeDelta (bias : Nat) : List Char → (k weight i : Nat) → Option (Nat × List Char)
  | [], _, _, _ => none
  | c :: rest, k, weight, i =>
    match digitValue? c with
    | none => none
    | some d =>
      let t := threshold k bias
      if deltaLimit ≤ i + d * weight then none
      else if d < t then some (i + d * weight, rest)
      else if deltaLimit ≤ weight * (36 - t) then none
      else decodeDelta bias rest (k + 36) (weight * (36 - t)) (i + d * weight)

theorem decodeDelta_length_lt {bias k weight i j : Nat} {cs rest : List Char}
    (h : decodeDelta bias cs k weight i = some (j, rest)) : rest.length < cs.length := by
  induction cs generalizing k weight i with
  | nil => simp [decodeDelta] at h
  | cons c cs ih =>
    rw [decodeDelta] at h
    split at h
    · cases h
    · simp only at h
      split at h
      · cases h
      · split at h
        · cases h
          simp
        · split at h
          · cases h
          · have := ih h
            simp only [List.length_cons]
            omega

/-- Puts characters back into `label`; `n` is the last code point and `i` its position. -/
def restore (bias n i : Nat) (label : List Char) (cs : List Char) : Option (List Char) :=
  if cs.isEmpty then some label
  else
    match h : decodeDelta bias cs 36 1 i with
    | none => none
    | some (j, rest) =>
      have : rest.length < cs.length := decodeDelta_length_lt h
      let count := label.length + 1
      let point := n + j / count
      if point < 0xD800 ∨ (0xDFFF < point ∧ point < 0x110000) then
        restore (adapt (j - i) count (i == 0)) point (j % count + 1)
          (label.insertIdx (j % count) (Char.ofNat point)) rest
      else none
termination_by cs.length

/-- The label that an ASCII form stands for. The last hyphen is a delimiter unless nothing is before
it. -/
def decode? (text : List Char) : Option (List Char) :=
  let tail := (text.reverse.takeWhile (· != '-')).reverse
  let basic := text.take (text.length - tail.length - 1)
  if basic.isEmpty then restore 72 128 0 [] text
  else if basic.all isAscii then restore 72 128 0 basic tail
  else none

end Flowline.Url.Punycode
