/-! Counting in 64-bit words. Line and column numbers are words; a sum or a difference that is no
word is refused rather than wrapped around. The ends of a stretch of lines are counted with a stop
instead: at the greatest word, and at zero. -/
namespace Pinpoint

inductive Overflow where
  /-- A sum is `2 ^ 64` or more. -/
  | sum
  /-- A difference is below zero. -/
  | difference
  deriving DecidableEq, Repr

def Overflow.message : Overflow → String
  | .sum => "attempt to add with overflow"
  | .difference => "attempt to subtract with overflow"

def addWord (word : UInt64) (count : Nat) : Except Overflow UInt64 :=
  if word.toNat + count < UInt64.size then .ok (UInt64.ofNat (word.toNat + count))
  else .error .sum

def subWord (word count : UInt64) : Except Overflow UInt64 :=
  if count ≤ word then .ok (word - count) else .error .difference

def predecessor? (word : UInt64) : Option UInt64 :=
  if word = 0 then none else some (word - 1)

/-- The word `word + count`, or the greatest one where that is too large. -/
def addCapped (word count : UInt64) : UInt64 :=
  if word.toNat + count.toNat < UInt64.size then word + count else UInt64.ofNat (UInt64.size - 1)

/-- The word `word - count`, or zero where that is below it. -/
def subCapped (word count : UInt64) : UInt64 :=
  if count ≤ word then word - count else 0

theorem bind_eq_ok_iff {ε α β : Type} {first : Except ε α} {next : α → Except ε β} {b : β} :
    first >>= next = .ok b ↔ ∃ a, first = .ok a ∧ next a = .ok b := by
  cases first with
  | error why => simp [bind, Except.bind]
  | ok a => simp [bind, Except.bind]

theorem mapM_eq_ok_iff {ε α β : Type} {f : α → Except ε β} {P : α → Prop} {g : α → β}
    (each : ∀ a b, f a = .ok b ↔ P a ∧ g a = b) {as : List α} {bs : List β} :
    as.mapM f = .ok bs ↔ (∀ a ∈ as, P a) ∧ as.map g = bs := by
  induction as generalizing bs with
  | nil => simp [pure, Except.pure]
  | cons a as ih =>
    rw [List.mapM_cons, bind_eq_ok_iff, List.forall_mem_cons, List.map_cons]
    simp only [each, bind_eq_ok_iff, ih, pure, Except.pure, Except.ok.injEq]
    constructor
    · rintro ⟨_, ⟨first, rfl⟩, _, ⟨others, rfl⟩, same⟩
      exact ⟨⟨first, others⟩, same⟩
    · rintro ⟨⟨first, others⟩, same⟩
      exact ⟨_, ⟨first, rfl⟩, _, ⟨others, rfl⟩, same⟩

theorem addWord_eq_ok_iff {word sum : UInt64} {count : Nat} :
    addWord word count = .ok sum ↔ sum.toNat = word.toNat + count := by
  have bound := sum.toNat_lt_size
  unfold addWord
  split
  · rename_i fits
    rw [Except.ok.injEq, ← UInt64.toNat_inj, UInt64.toNat_ofNat_of_lt' fits, eq_comm]
  · simp only [reduceCtorEq, false_iff]
    omega

theorem addWord_eq_error_iff {word : UInt64} {count : Nat} :
    addWord word count = .error .sum ↔ UInt64.size ≤ word.toNat + count := by
  unfold addWord
  split <;> simp <;> omega

theorem subWord_eq_ok_iff {word count difference : UInt64} :
    subWord word count = .ok difference ↔ word.toNat = difference.toNat + count.toNat := by
  unfold subWord
  split
  · rename_i below
    have value := UInt64.toNat_sub_of_le word count below
    have below := UInt64.le_iff_toNat_le.mp below
    rw [Except.ok.injEq, ← UInt64.toNat_inj]
    omega
  · rename_i above
    have above := mt UInt64.le_iff_toNat_le.mpr above
    simp only [reduceCtorEq, false_iff]
    omega

theorem predecessor?_eq_some_iff {word before : UInt64} :
    predecessor? word = some before ↔ word.toNat = before.toNat + 1 := by
  unfold predecessor?
  split
  · rename_i zero
    simp [zero]
  · rename_i positive
    have positive : 1 ≤ word.toNat := by
      rw [← UInt64.toNat_inj, UInt64.toNat_zero] at positive
      omega
    have value := UInt64.toNat_sub_of_le word 1 (UInt64.le_iff_toNat_le.mpr positive)
    rw [UInt64.toNat_one] at value
    rw [Option.some.injEq, ← UInt64.toNat_inj]
    omega

theorem exists_word {n : Nat} (fits : n < UInt64.size) : ∃ word : UInt64, word.toNat = n :=
  ⟨UInt64.ofNat n, UInt64.toNat_ofNat_of_lt' fits⟩

theorem toNat_min (a b : UInt64) : (min a b).toNat = min a.toNat b.toNat := by
  change (if a ≤ b then a else b).toNat = _
  split
  · rename_i below
    exact (Nat.min_eq_left (UInt64.le_iff_toNat_le.mp below)).symm
  · rename_i above
    have above := mt UInt64.le_iff_toNat_le.mpr above
    omega

theorem toNat_addCapped (word count : UInt64) :
    (addCapped word count).toNat = min (word.toNat + count.toNat) (UInt64.size - 1) := by
  unfold addCapped
  split
  · rename_i fits
    rw [UInt64.toNat_add, Nat.mod_eq_of_lt fits]
    omega
  · rw [UInt64.toNat_ofNat_of_lt' (by decide)]
    omega

theorem toNat_subCapped (word count : UInt64) :
    (subCapped word count).toNat = word.toNat - count.toNat := by
  unfold subCapped
  split
  · rename_i below
    exact UInt64.toNat_sub_of_le word count below
  · rename_i above
    have above := mt UInt64.le_iff_toNat_le.mpr above
    rw [UInt64.toNat_zero]
    omega

end Pinpoint
