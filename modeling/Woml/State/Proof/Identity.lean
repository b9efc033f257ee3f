import Woml.State.Proof.Refinement

/-!
# The digests that identify calls

With a digest that has no collisions, the scope of a workflow and the digest of a key stand for the
workflow and the key, and the key of an operation for the name of the operation. Two calls that
pass the checks with one input and one operation key are one operation (`prepared_same`).
-/

namespace Woml

open Checked

section
variable [StateHost] {er : DurableStateError}

omit [StateHost] in
theorem utf8_injective : Function.Injective utf8 := by
  intro a b h
  refine String.toByteArray_inj.1 (ByteArray.ext (Array.toList_inj.1 ?_))
  exact List.map_injective_iff.2 (fun _ _ h => UInt8.toNat_inj.1 h) h

theorem sha256Prefixed_injective (hs : Function.Injective Host.sha256) :
    Function.Injective sha256Prefixed := fun _ _ h => hs ((String.append_right_inj _).1 h)

theorem stateKeyDigest_injective (hs : Function.Injective Host.sha256) :
    Function.Injective stateKeyDigest := fun _ _ h =>
  utf8_injective (List.append_cancel_left (sha256Prefixed_injective hs h))

/-- The scope of a workflow in a store. -/
def stateScope (location workflowId : String) : String :=
  sha256Prefixed (utf8 "woml.state-scope\x00v1\x00" ++ utf8 location ++ utf8 "\x00" ++
    utf8 workflowId)

theorem stateScope_injective (hs : Function.Injective Host.sha256) (l : String) :
    Function.Injective (stateScope l) := fun _ _ h =>
  utf8_injective (List.append_cancel_left (sha256Prefixed_injective hs h))

omit [StateHost] in
theorem eq_append_of_dropChars {α : Type} [DecidableEq α] {p s rest : List α}
    (h : Text.dropChars p s = some rest) : s = p ++ rest := by
  induction p generalizing s with
  | nil => exact Option.some.inj h
  | cons c p ih =>
    cases s with
    | nil => cases h
    | cons d s =>
      simp only [Text.dropChars] at h
      split at h
      · rename_i he
        rw [he, ih h, List.cons_append]
      · cases h

omit [StateHost] in
theorem length_of_validSha256 {v : String} (h : validSha256 v = true) : (utf8 v).length = 71 := by
  obtain ⟨d, hd, h⟩ := (Option.any_eq_true _ _).1 h
  simp only [Bool.and_eq_true, decide_eq_true_eq] at h
  have hl := congrArg List.length (eq_append_of_dropChars hd)
  rw [List.length_append, h.1] at hl
  rw [utf8, List.length_map]
  exact hl

/-- An operation key stands for the name of the operation. -/
theorem operationName_of_key (hsh : Function.Injective Host.sha256) {step s' name name' : String}
    (hs : validSha256 step = true) (hs' : validSha256 s' = true)
    (h : deriveOperationKey step name = deriveOperationKey s' name') : name = name' := by
  have hb := sha256Prefixed_injective hsh h
  simp only [List.append_assoc] at hb
  have hb := List.append_cancel_left hb
  have hl : (utf8 step).length = (utf8 s').length :=
    (length_of_validSha256 hs).trans (length_of_validSha256 hs').symm
  have hr := (List.append_inj hb hl).2
  exact utf8_injective (List.append_cancel_left hr)

/-! ## The checks before the transaction -/

/-- What a call that passed the checks says. -/
structure PreparedFor (location workflowId : String) (call : CapabilityCallRequest)
    (prepared : PreparedStateCall) : Prop where
  checked : prepared.Checked
  scope : prepared.scope = stateScope location workflowId
  request : parseStateRequest call.input call.operation = .ok (prepared.operation, prepared.input)
  key : stateKey prepared.input = .ok prepared.key
  input : ∃ text, canonicalString call.input = .ok text ∧
    prepared.inputDigest = domainDigest "woml.state-input\x00v1\x00" text
  identity : ∀ identity, prepared.mutation = some identity →
    identity = ⟨call.identity.operationKey, call.identity.operationName, prepared.inputDigest⟩ ∧
      call.identity.operationKey =
        deriveOperationKey call.identity.stepIdempotencyKey call.identity.operationName ∧
      validSha256 call.identity.stepIdempotencyKey = true

omit [StateHost] in
theorem required_of_parse {i : Value} {e : String} {o : StateOperation}
    {fs : JsonMap} (h : parseStateRequest i e = .ok (o, fs)) :
    ∀ name ∈ o.required, fs.containsKey name = true := by
  simp only [parseStateRequest, eq_ok_iff] at h
  obtain ⟨request, _, _, _, o', _, _, hm, _, _, _, _, rfl, rfl⟩ := h
  intro name hn
  by_contra hmi
  exact hm (.inr (List.any_eq_true.2 ⟨name, hn, by simpa using hmi⟩))

theorem prepare_eq_ok {ha : DurableStateStore} {wi : String} {call : CapabilityCallRequest}
    {prepared : PreparedStateCall} (h : ha.prepare wi call = .ok prepared) :
    PreparedFor ha.stateLocationDigest wi call prepared := by
  simp only [DurableStateStore.prepare, eq_ok_iff, Prod.exists] at h
  obtain ⟨_, _, _, hv, _, _, o, fs, hp, key, hk, text, ht, h⟩ := h
  have hv : call.isValid = true := by simpa using hv
  have hs : validSha256 call.identity.stepIdempotencyKey = true := by
    simp only [CapabilityCallRequest.isValid, Bool.and_eq_true] at hv
    obtain ⟨⟨⟨⟨⟨⟨⟨-, hs⟩, -⟩, -⟩, -⟩, -⟩, -⟩, -⟩ := hv
    exact hs
  split at h
  · rename_i hc
    simp only [eq_ok_iff, validateMutationIdentity] at h
    obtain ⟨_, ⟨_, ⟨_, hn, _, _, _, _, rfl⟩, rfl⟩, rfl⟩ := h
    refine ⟨⟨rfl, required_of_parse hp, hc.symm⟩, rfl, hp, hk, ⟨text, ht, rfl⟩, ?_⟩
    rintro identity ⟨⟩
    simp only [not_or, not_not] at hn
    exact ⟨rfl, hn.2, hs⟩
  · rename_i hr
    cases h
    refine ⟨⟨rfl, required_of_parse hp, ?_⟩, rfl, hp, hk, ⟨text, ht, rfl⟩, by rintro _ ⟨⟩⟩
    simpa using hr

theorem canonicalString_eq_error {v : Value} (h : canonicalString v = .error er) :
    er = .valueInvalid := by
  unfold canonicalString at h
  cases hj : Host.canonicalJson v <;> rw [hj] at h <;> cases h
  rfl

omit [StateHost] in
theorem stateKey_eq_error {i : JsonMap} (h : stateKey i = .error er) : er = .keyInvalid := by
  simp only [stateKey, bind_eq_error, orFail_eq_error, failIf_eq_error, reduceCtorEq, and_false,
    exists_false, or_false] at h
  rcases h with ⟨_, rfl⟩ | ⟨_, _, _, rfl⟩ <;> rfl

omit [StateHost] in
theorem parseStateRequest_eq_error {i : Value} {e : String}
    (h : parseStateRequest i e = .error er) :
    er = .invalidRequest ∨ er = .keyInvalid := by
  simp only [parseStateRequest, bind_eq_error, orFail_eq_error, failIf_eq_error, reduceCtorEq,
    and_false, exists_false, or_false] at h
  rcases h with ⟨_, rfl⟩ | ⟨_, _, ⟨_, rfl⟩ | ⟨_, _, ⟨_, rfl⟩ | ⟨_, _, ⟨_, rfl⟩ | ⟨_, _, hk |
    ⟨_, _, _, rfl⟩⟩⟩⟩⟩
  · exact .inl rfl
  · exact .inl rfl
  · exact .inl rfl
  · exact .inl rfl
  · exact .inr (stateKey_eq_error hk)
  · exact .inl rfl

/-- The checks before the transaction do not speak of the tables. -/
theorem prepare_eq_error {ha : DurableStateStore} {wi : String} {call : CapabilityCallRequest}
    (h : ha.prepare wi call = .error er) :
    er = .invalidRequest ∨ er = .keyInvalid ∨ er = .valueInvalid ∨ er = .operationNameInvalid := by
  simp only [DurableStateStore.prepare, bind_eq_error, failIf_eq_error, Prod.exists] at h
  rcases h with ⟨_, rfl⟩ | ⟨_, _, ⟨_, rfl⟩ | ⟨_, _, ⟨_, rfl⟩ | ⟨_, _, hp | ⟨o, fs, _,
    hk | ⟨key, _, ht | ⟨text, _, h⟩⟩⟩⟩⟩⟩
  · exact .inl rfl
  · exact .inl rfl
  · exact .inl rfl
  · rcases parseStateRequest_eq_error hp with rfl | rfl
    · exact .inl rfl
    · exact .inr (.inl rfl)
  · exact .inr (.inl (stateKey_eq_error hk))
  · exact .inr (.inr (.inl (canonicalString_eq_error ht)))
  · split at h
    · simp only [bind_eq_error, map_eq_error, validateMutationIdentity, failIf_eq_error,
        orFail_eq_error, reduceCtorEq, and_false, exists_false, or_false] at h
      rcases h with ⟨_, rfl⟩ | ⟨_, _, ⟨_, rfl⟩ | ⟨_, _, _, rfl⟩⟩ <;> exact .inr (.inr (.inr rfl))
    · cases h

/-- **One input and one operation key are one operation.** -/
theorem PreparedFor.same (hsh : Function.Injective Host.sha256) {l wi : String}
    {call c' : CapabilityCallRequest} {prepared p' : PreparedStateCall}
    (h : PreparedFor l wi call prepared) (h' : PreparedFor l wi c' p') (hi : c'.input = call.input)
    (hke : c'.identity.operationKey = call.identity.operationKey) : p' = prepared := by
  have hr' := h'.request
  rw [hi] at hr'
  have ho : c'.operation = call.operation := by
    have hr := h.request
    simp only [parseStateRequest, eq_ok_iff, not_or, not_not] at hr hr'
    obtain ⟨request, hp, _, ⟨_, _, _, he⟩, _⟩ := hr
    obtain ⟨r', hp', _, ⟨_, _, _, he'⟩, _⟩ := hr'
    cases hp.symm.trans hp'
    exact he'.symm.trans he
  rw [ho, h.request] at hr'
  simp only [Except.ok.injEq, Prod.mk.injEq] at hr'
  obtain ⟨hop, hf⟩ := hr'
  have hk : p'.key = prepared.key := by
    have hst := h'.key
    rw [← hf, h.key] at hst
    exact (Except.ok.inj hst).symm
  have hdi : p'.inputDigest = prepared.inputDigest := by
    obtain ⟨text, ht, hdg⟩ := h.input
    obtain ⟨t', ht', hdi'⟩ := h'.input
    rw [hi, ht] at ht'
    rw [hdg, hdi', Except.ok.inj ht']
  have hmu : p'.mutation = prepared.mutation := by
    have hc := h.checked.mutation
    have hc' := h'.checked.mutation
    rw [← hop, ← hc] at hc'
    cases hm : prepared.mutation with
    | none =>
      rw [hm] at hc'
      simpa using hc'
    | some identity =>
      rw [hm, Option.isSome_some, Option.isSome_iff_exists] at hc'
      obtain ⟨i', hm'⟩ := hc'
      obtain ⟨rfl, hd, hs⟩ := h.identity identity hm
      obtain ⟨rfl, hd', hs'⟩ := h'.identity i' hm'
      have hn := operationName_of_key hsh hs' hs (hd'.symm.trans (hke.trans hd))
      rw [hm', hke, hn, hdi]
  obtain ⟨o, fs, key, s, kd, i, m⟩ := prepared
  obtain ⟨o', fs', key', s', kd', inp', m'⟩ := p'
  have hsc := h'.scope.trans h.scope.symm
  have hdg := h'.checked.digest
  have hdi' := h.checked.digest
  simp only at hop hf hk hdi hmu hsc hdg hdi'
  subst hop hf hk hdi hmu hsc
  rw [hdg, hdi']

end

end Woml
