import FactoryBundler.Proofs.Json.Everywhere
import FactoryBundler.Proofs.Json.Grammar
import FactoryBundler.Proofs.Json.Members

/-!
# Values of the grammar

Whatever bytes spell it, a value is well-formed and at most as deep as the grammar allows: keys that
are set twice are merged, integers beyond 64 bits become doubles, and one level is spent at every
bracket.
-/

namespace FactoryBundler.Json

variable {token : List UInt8} {depth : Nat} {value : Json}

theorem isWithin64Bits_of_value {numeral : Numeral} {i : Int}
    (h : numeral.value = some (.integer i)) : isWithin64Bits i = true := by
  have top : Decimal.twoTo 64 = 2 ^ 64 := rfl
  have bottom : Decimal.twoTo 63 = 2 ^ 63 := rfl
  unfold Numeral.value at h
  rw [isWithin64Bits, decide_eq_true_eq]
  split at h
  · next n _ _ counted =>
    have fits : n < Decimal.twoTo 64 := by
      have counted' := @countDigits_lt numeral.whole 0 (by decide)
      rwa [counted] at counted'
    split at h
    · obtain rfl : _ = i := by simpa using h
      omega
    · split at h
      · next small =>
        obtain rfl : -_ = i := by simpa using h
        omega
      · simp at h
  · simp at h

theorem isWithin64Bits_of_isNumber {i : Int} (isNumber : IsNumber (.integer i) token) :
    isWithin64Bits i = true := by
  obtain ⟨-, number⟩ := isNumber
  unfold Numeral.number? at number
  split at number
  · exact isWithin64Bits_of_value number
  · split at number
    · exact isWithin64Bits_of_value number
    · split at number <;> cases number

theorem fits64Bits_of_isScalar (isScalar : IsScalar value token) : fits64Bits value = true := by
  cases isScalar with
  | null | isTrue | isFalse | string => rfl
  | @number n _ isNumber =>
      cases n with
      | integer i => exact isWithin64Bits_of_isNumber isNumber
      | double d => rfl

theorem depth_of_isScalar (isScalar : IsScalar value token) : value.depth = 0 := by
  cases isScalar <;> rfl

/-! ## Everything inside -/

/-- A test holds everywhere in a value that is spelled if it holds of scalars that are spelled, of
arrays, and of objects with distinct keys. -/
theorem everywhere_of_isValue {test : Json → Bool}
    (scalar : ∀ {value token}, IsScalar value token → test value = true)
    (array : ∀ items, test (.array items) = true)
    (object : ∀ members, (Members.keys members).Nodup → test (.object members) = true)
    (isValue : IsValue depth value token) : value.everywhere test = true := by
  have flat {value token} (isScalar : IsScalar value token) : value.everywhere test = true := by
    have holds := scalar isScalar
    cases isScalar <;> exact holds
  induction depth generalizing value token with
  | zero => exact flat isValue
  | succ depth ih =>
      rcases isValue with isScalar | ⟨items, rfl, bracketed⟩ | ⟨members, rfl, bracketed⟩
      · exact flat isScalar
      · refine everywhere_array_iff.mpr ⟨array items, fun item inItems => ?_⟩
        obtain ⟨_, isItem⟩ := bracketed.exists_token inItems
        exact ih isItem
      · refine everywhere_object_iff.mpr
          ⟨object _ (Members.nodup_keys_ofList _), fun member inMembers => ?_⟩
        obtain ⟨_, isMember⟩ := bracketed.exists_token (Members.mem_of_mem_ofList inMembers)
        obtain ⟨-, -, -, isHeld⟩ := isMember
        exact ih isHeld

theorem depth_le_of_isValue (isValue : IsValue depth value token) : value.depth ≤ depth := by
  induction depth generalizing value token with
  | zero => exact (depth_of_isScalar isValue).le
  | succ depth ih =>
      rcases isValue with isScalar | ⟨items, rfl, bracketed⟩ | ⟨members, rfl, bracketed⟩
      · exact (depth_of_isScalar isScalar).le.trans (Nat.zero_le _)
      · refine depth_array_le_iff.mpr fun item inItems => ?_
        obtain ⟨_, isItem⟩ := bracketed.exists_token inItems
        exact ih isItem
      · refine depth_object_le_iff.mpr fun member inMembers => ?_
        obtain ⟨_, isMember⟩ := bracketed.exists_token (Members.mem_of_mem_ofList inMembers)
        obtain ⟨-, -, -, isHeld⟩ := isMember
        exact ih isHeld

/-- A value that is spelled is well-formed, and as deep as it may be at most. -/
theorem wellFormed_of_isValue (isValue : IsValue depth value token) :
    value.WellFormed ∧ value.depth ≤ depth := by
  refine ⟨everywhere_of_isValue (fun isScalar => ?_) (fun _ => rfl) (fun members distinct => ?_)
    isValue, depth_le_of_isValue isValue⟩
  · rw [Bool.and_eq_true]
    refine ⟨?_, fits64Bits_of_isScalar isScalar⟩
    cases isScalar <;> rfl
  · simp [hasDistinctKeys, fits64Bits, distinct]

end FactoryBundler.Json
