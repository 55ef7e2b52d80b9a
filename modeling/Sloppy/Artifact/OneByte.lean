import Sloppy.Artifact.Layout

/-! # One byte changed

Every round of the checksum can be undone, so two artifacts that differ in one byte outside of the checksum field
have different checksums, and inside of it the same. Either way not both are accepted.
-/

namespace Sloppy.Artifact

open Lib Lib.Traced Lib.LittleEndian List

def fnvPrimeInverse : UInt64 := 0xce965057aff6957b

lemma mul_fnvPrime_cancel {first second : UInt64} (h : first * fnvPrime = second * fnvPrime) : first = second := by
  have hOne : fnvPrime * fnvPrimeInverse = 1 := by decide
  have hBack : ∀ hash : UInt64, hash * fnvPrime * fnvPrimeInverse = hash := by
    intro hash
    rw [UInt64.mul_assoc, hOne, UInt64.mul_one]
  rw [← hBack first, h, hBack]

lemma fnvFrom_cancel (index : Nat) {first second : UInt64} (bytes : List UInt8)
    (h : fnvFrom index first bytes = fnvFrom index second bytes) : first = second := by
  induction bytes generalizing index first second with
  | nil => exact h
  | cons b rest ih =>
    have hRound := ih (index + 1) h
    exact (UInt64.xor_left_inj _).mp (mul_fnvPrime_cancel hRound)

lemma inField_iff (index : Nat) : (checksumOffset ≤ index ∧ index < checksumOffset + 8) ↔ 40 ≤ index ∧ index < 48 :=
  Iff.rfl

lemma fnvFrom_change {front back : List UInt8} {b c : UInt8} (hField : ¬(40 ≤ front.length ∧ front.length < 48))
    (hash : UInt64) (h : fnvFrom 0 hash (front ++ b :: back) = fnvFrom 0 hash (front ++ c :: back)) : b = c := by
  rw [fnvFrom_append, fnvFrom_append, fnvFrom, fnvFrom] at h
  have hRound := fnvFrom_cancel _ _ h
  simp only [fnvRound, inField_iff, Nat.zero_add, if_neg hField] at hRound
  exact UInt8.toUInt64_inj.mp ((UInt64.xor_right_inj _).mp (mul_fnvPrime_cancel hRound))

lemma getElem?_change {front back : List UInt8} (b c : UInt8) {index : Nat} (h : index ≠ front.length) :
    (front ++ b :: back)[index]? = (front ++ c :: back)[index]? := by
  rw [getElem?_append, getElem?_append]
  split
  · rfl
  · obtain ⟨k, hk⟩ : ∃ k, index - front.length = k + 1 := ⟨index - front.length - 1, by omega⟩
    rw [hk, getElem?_cons_succ, getElem?_cons_succ]

lemma checksum_of_accepted {sha256 : List UInt8 → Except StatusCode (List UInt8)}
    {artifact expectedHash : List UInt8} {routes : List PlanRoute} {summary : RouteArtifactSummary}
    (h : (routeArtifactValidate sha256 artifact expectedHash routes).result = .ok summary) :
    (fnvFrom 0 fnvOffsetBasis artifact).toNat = fromBytes (slice artifact checksumOffset 8) ∧
      routeArtifactHeaderSize ≤ artifact.length := by
  have hSpec : Spec (fun _ => True) (routeArtifactValidate sha256 artifact expectedHash routes) fun _ =>
      (fnvFrom 0 fnvOffsetBasis artifact).toNat = fromBytes (slice artifact checksumOffset 8) ∧
        routeArtifactHeaderSize ≤ artifact.length := by
    have hAny : ∀ {α : Type} (m : Check α) (Q : α → Prop), (∀ x, m.result = .ok x → Q x) → Spec (fun _ => True) m Q :=
      fun m Q hPost => ⟨fun _ _ => trivial, hPost⟩
    refine (hAny (readHeader artifact) _ readHeader_spec.post).bind fun summary hHdr => ?_
    refine (hAny _ (fun _ => True) fun _ _ => trivial).bind fun _ _ => ?_
    refine (hAny _ _ slrtChecksum_returns.spec.post).bind fun hash hHash => ?_
    refine (Spec.require _ _).bind fun _ hSame => hAny _ _ fun _ _ => ?_
    rw [hHash, hHdr.checksum] at hSame
    exact ⟨hSame, hHdr.complete⟩
  exact hSpec.post summary h

/-- Of two byte strings that differ in one byte, not both are accepted. -/
theorem routeArtifactValidate_change (sha256 : List UInt8 → Except StatusCode (List UInt8))
    (front back : List UInt8) (b c : UInt8) (hChange : b ≠ c) (routes : List PlanRoute)
    (summary : RouteArtifactSummary)
    (hAccepted : (routeArtifactValidate sha256 (front ++ b :: back) [] routes).result = .ok summary) :
    ∃ failure, (routeArtifactValidate sha256 (front ++ c :: back) [] routes).result = .error failure := by
  cases hOther : (routeArtifactValidate sha256 (front ++ c :: back) [] routes).result with
  | error failure => exact ⟨failure, rfl⟩
  | ok =>
    obtain ⟨hSum, hLength⟩ := checksum_of_accepted hAccepted
    obtain ⟨hSum', hLength'⟩ := checksum_of_accepted hOther
    by_cases hField : 40 ≤ front.length ∧ front.length < 48
    · have hSame : fnvFrom 0 fnvOffsetBasis (front ++ b :: back) = fnvFrom 0 fnvOffsetBasis (front ++ c :: back) := by
        rw [fnvFrom_append, fnvFrom_append, fnvFrom, fnvFrom]
        simp only [fnvRound, inField_iff, Nat.zero_add, if_pos hField]
      rw [hSame, hSum'] at hSum
      have hBytes : slice (front ++ c :: back) 40 8 = slice (front ++ b :: back) 40 8 := by
        have hWhole : 64 ≤ (front ++ b :: back).length := hLength
        have hWhole' : 64 ≤ (front ++ c :: back).length := hLength'
        rw [← toBytes_fromBytes (slice (front ++ c :: back) 40 8),
          ← toBytes_fromBytes (slice (front ++ b :: back) 40 8),
          slice_length (by omega), slice_length (by omega)]
        exact congrArg (toBytes 8) hSum
      have hAt := congrArg (·[front.length - 40]?) hBytes
      simp only [slice, getElem?_take, getElem?_drop] at hAt
      rw [if_pos (by omega), if_pos (by omega), show 40 + (front.length - 40) = front.length by omega] at hAt
      simp only [getElem?_append_right (Nat.le_refl _), Nat.sub_self, getElem?_cons_zero, Option.some.injEq] at hAt
      exact absurd hAt.symm hChange
    · refine absurd (@fnvFrom_change front back b c hField fnvOffsetBasis (UInt64.toNat_inj.mp ?_)) hChange
      rw [hSum, hSum']
      congr 1
      apply ext_getElem?
      intro i
      rw [slice, slice, getElem?_take, getElem?_take, getElem?_drop, getElem?_drop]
      split
      · exact getElem?_change b c (by rw [checksumOffset]; omega)
      · rfl

/-- A byte that the validator reads for the checksum only. -/
theorem routeArtifactValidate_change_reserved : ∃ failure, (routeArtifactValidate (fun _ => .ok [])
      (singleRouteArtifact.take 50 ++ 7 :: singleRouteArtifact.drop 51) []
      [⟨HttpMethod.get.name, ascii ['/'], [], 1⟩]).result = .error failure :=
  routeArtifactValidate_change (fun _ => .ok []) (singleRouteArtifact.take 50) (singleRouteArtifact.drop 51) 0 7
    (by decide) _ ⟨1, 1, 1, 64, 48, 112, 1, 16081094675777127854⟩ (by decide +kernel)

end Sloppy.Artifact
