import RouteAtlas.Digest

/-!
# The digest on numbers

To evaluate a digest, the kernel opens each operation on machine words to one on bit vectors and
that to one on residues, some fifty steps for each of a few thousand operations. On natural numbers
it has the operations built in. So the digest is computed once more here, on the numbers of the
words, and `sha256_eq_sha256Numbers` says that the result is the same for every message: a proof
about fixed messages rewrites with it and is evaluated in a tenth of the memory.

The steps are those of the definition, one lemma each. Two things are different. Every word is
brought to a numeral before the next one is computed from it (`forced`), as otherwise the words of a
block would stand in each other as ever larger terms. And the schedule is held with the latest word
first, which is where the next word looks; in the definition it looks from the end of an array.
-/

namespace RouteAtlas.Digest

/-- The rest of a computation at a number that is brought to a numeral first: the kernel has to
evaluate the number to know the case. -/
def forced {α : Type} (n : Nat) (next : Nat → α) : α :=
  match n with
  | 0 => next 0
  | n + 1 => next (n + 1)

@[simp] theorem forced_eq {α : Type} (n : Nat) (next : Nat → α) : forced n next = next n := by
  cases n <;> rfl

/-- The numbers of the words of a chaining state. -/
structure Numbers where
  a : Nat
  b : Nat
  c : Nat
  d : Nat
  e : Nat
  f : Nat
  g : Nat
  h : Nat

/-- A state as numbers. -/
def State.numbers (s : State) : Numbers :=
  ⟨s.a.toNat, s.b.toNat, s.c.toNat, s.d.toNat, s.e.toNat, s.f.toNat, s.g.toNat, s.h.toNat⟩

/-- The number of a word turned right by `n` bits, `n` between 1 and 31. -/
def turnNumber (x n : Nat) : Nat := x >>> n ||| x <<< (32 - n) % UInt32.size

theorem toNat_turnRight (x : UInt32) {n : UInt32} (h : 0 < n.toNat) (h' : n.toNat < 32) :
    (turnRight x n).toNat = turnNumber x.toNat n.toNat := by
  have hback : (32 - n).toNat = 32 - n.toNat :=
    UInt32.toNat_sub_of_le _ _ (UInt32.le_iff_toNat_le.mpr (Nat.le_of_lt h'))
  rw [turnRight, turnNumber, UInt32.toNat_or, UInt32.toNat_shiftRight, UInt32.toNat_shiftLeft,
    hback, Nat.mod_eq_of_lt h', Nat.mod_eq_of_lt (by omega : 32 - n.toNat < 32)]

/-! ## The schedule -/

/-- The number of the next word of a schedule, from the numbers before it, the latest first. -/
def nextNumber (numbers : List Nat) : Nat :=
  let x := numbers.getD 14 0
  let y := numbers.getD 1 0
  (numbers.getD 15 0 + (turnNumber x 7 ^^^ turnNumber x 18 ^^^ x >>> 3) + numbers.getD 6 0
    + (turnNumber y 17 ^^^ turnNumber y 19 ^^^ y >>> 10)) % UInt32.size

/-- Numbers added to a schedule in front, `n` of them. -/
def extendNumbers : Nat → List Nat → List Nat
  | 0, numbers => numbers
  | n + 1, numbers => forced (nextNumber numbers) fun next => extendNumbers n (next :: numbers)

/-- The numbers of a schedule, the latest first. -/
def latestFirst (words : Array UInt32) : List Nat := (words.toList.map UInt32.toNat).reverse

theorem latestFirst_push (words : Array UInt32) (word : UInt32) :
    latestFirst (words.push word) = word.toNat :: latestFirst words := by
  simp [latestFirst]

/-- The word `n` places back from the end is the one before place `n`. -/
theorem toNat_getD_back {words : Array UInt32} {n : Nat} (h : 0 < n) (h' : n ≤ words.size) :
    (words.getD (words.size - n) 0).toNat = (latestFirst words).getD (n - 1) 0 := by
  have hback : words.size - n < words.size := by omega
  have hplace : words.size - 1 - (n - 1) = words.size - n := by omega
  have hlast : n - 1 < words.size := by omega
  simp [latestFirst, Array.getD, List.getD, hback, hplace, hlast]

/-- A schedule that holds a block has all of the words that the next one is made from. -/
theorem toNat_nextWord {words : Array UInt32} (h : 16 ≤ words.size) :
    (nextWord words).toNat = nextNumber (latestFirst words) := by
  simp (disch := omega) only [nextWord, UInt32.toNat_add, UInt32.toNat_xor,
    UInt32.toNat_shiftRight, toNat_getD_back]
  -- The words that are turned are read under the turning, once that is on numbers.
  simp (disch := decide) only [toNat_turnRight]
  simp (disch := omega) only [toNat_getD_back, Nat.mod_add_mod]
  rfl

theorem latestFirst_extendSchedule (n : Nat) {words : Array UInt32} (h : 16 ≤ words.size) :
    latestFirst (extendSchedule n words) = extendNumbers n (latestFirst words) := by
  induction n generalizing words with
  | zero => rfl
  | succ n ih =>
    have hpush : 16 ≤ (words.push (nextWord words)).size := by
      rw [Array.size_push]
      omega
    rw [extendSchedule, ih hpush, latestFirst_push, toNat_nextWord h, extendNumbers, forced_eq]

/-! ## The rounds -/

/-- The rounds with the numbers of the scheduled and of the constant words. A sum is cut to a word
where it enters the state, which is as good as after each of its terms. -/
def mixNumbers : List (Nat × Nat) → Numbers → Numbers
  | [], s => s
  | (scheduled, constant) :: rest, ⟨a, b, c, d, e, f, g, h⟩ =>
    let big1 := turnNumber e 6 ^^^ turnNumber e 11 ^^^ turnNumber e 25
    let choice := (e &&& f) ^^^ ((UInt32.size - 1 - e) &&& g)
    let big0 := turnNumber a 2 ^^^ turnNumber a 13 ^^^ turnNumber a 22
    let majority := (a &&& b) ^^^ (a &&& c) ^^^ (b &&& c)
    forced (h + big1 + choice + constant + scheduled) fun first =>
      forced ((first + (big0 + majority)) % UInt32.size) fun a' =>
        forced ((d + first) % UInt32.size) fun e' =>
          mixNumbers rest ⟨a', a, b, c, e', e, f, g⟩

theorem numbers_mix (rounds : List (UInt32 × UInt32)) (s : State) :
    (rounds.foldl (fun s (word, constant) => round s word constant) s).numbers =
      mixNumbers (rounds.map (Prod.map UInt32.toNat UInt32.toNat)) s.numbers := by
  induction rounds generalizing s with
  | nil => rfl
  | cons r rounds ih =>
    rw [List.foldl_cons, ih, List.map_cons, Prod.map, State.numbers, State.numbers, mixNumbers]
    simp only [forced_eq]
    congr 1
    simp (disch := decide) only [round, toNat_turnRight, UInt32.toNat_add, UInt32.toNat_xor,
      UInt32.toNat_and, UInt32.toNat_not, Nat.mod_add_mod, Nat.add_mod_mod]
    rfl

/-! ## Blocks and messages -/

/-- The numbers of the sums of the words at the same places. -/
def Numbers.plus (s t : Numbers) : Numbers :=
  ⟨(s.a + t.a) % UInt32.size, (s.b + t.b) % UInt32.size, (s.c + t.c) % UInt32.size,
    (s.d + t.d) % UInt32.size, (s.e + t.e) % UInt32.size, (s.f + t.f) % UInt32.size,
    (s.g + t.g) % UInt32.size, (s.h + t.h) % UInt32.size⟩

theorem numbers_plus (s t : State) :
    State.numbers ⟨s.a + t.a, s.b + t.b, s.c + t.c, s.d + t.d, s.e + t.e, s.f + t.f, s.g + t.g,
      s.h + t.h⟩ = s.numbers.plus t.numbers := by
  simp only [State.numbers, Numbers.plus, UInt32.toNat_add]

/-- The numbers of the state after one more block. -/
def absorbNumbers (s : Numbers) (block : List Nat) : Numbers :=
  let schedule := (extendNumbers 48 block.reverse).reverse
  s.plus (mixNumbers (schedule.zip (roundWords.map UInt32.toNat)) s)

theorem numbers_absorb (s : State) {block : List UInt32} (h : 16 ≤ block.length) :
    (absorb s block).numbers = absorbNumbers s.numbers (block.map UInt32.toNat) := by
  have hschedule : (extendSchedule 48 block.toArray).toList.map UInt32.toNat =
      (extendNumbers 48 (block.map UInt32.toNat).reverse).reverse := by
    rw [← List.reverse_eq_iff]
    exact latestFirst_extendSchedule 48 h
  rw [absorbNumbers, ← hschedule, List.zip_map, ← numbers_mix]
  exact numbers_plus s _

/-- Absorbs a number of blocks of sixteen numbers each. -/
def absorbNumberBlocks : Nat → List Nat → Numbers → Numbers
  | 0, _, s => s
  | n + 1, numbers, s =>
    absorbNumberBlocks n (numbers.drop 16) (absorbNumbers s (numbers.take 16))

theorem numbers_absorbBlocks {n : Nat} {words : List UInt32} (h : 16 * n ≤ words.length)
    (s : State) :
    (absorbBlocks n words s).numbers =
      absorbNumberBlocks n (words.map UInt32.toNat) s.numbers := by
  induction n generalizing words s with
  | zero => rfl
  | succ n ih =>
    have hblock : 16 ≤ (words.take 16).length := by
      rw [List.length_take]
      omega
    have hrest : 16 * n ≤ (words.drop 16).length := by
      rw [List.length_drop]
      omega
    rw [absorbBlocks, absorbNumberBlocks, ih hrest, numbers_absorb s hblock, List.map_drop,
      List.map_take]

/-- The digest of a message, computed with numbers. -/
def sha256Numbers (message : Bytes) : Text :=
  let numbers := (wordsOf (pad message)).map UInt32.toNat
  let s := absorbNumberBlocks (numbers.length / 16) numbers State.initial.numbers
  [s.a, s.b, s.c, s.d, s.e, s.f, s.g, s.h].flatMap fun number =>
    (bigEndian 4 number).flatMap fun byte =>
      [Nat.digitChar (byte.toNat / 16), Nat.digitChar (byte.toNat % 16)]

/-- **A digest may be computed with numbers**, whatever the message. -/
theorem sha256_eq_sha256Numbers (message : Bytes) : sha256 message = sha256Numbers message := by
  rw [sha256Numbers, List.length_map, ← numbers_absorbBlocks (Nat.mul_div_le _ _)]
  rfl

example : sha256 [0x61, 0x62, 0x63] =
    "ba7816bf8f01cfea414140de5dae2223b00361a396177a9cb410ff61f20015ad".toList := by
  rw [sha256_eq_sha256Numbers]
  decide +kernel

end RouteAtlas.Digest
