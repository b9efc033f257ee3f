import Woml.Policy.Binding
import Woml.State.Proof.Linear

/-!
# What a run is bound to

A binding never changes. A policy that is bound to a run without one comes back as it was prepared
exactly if its bundle has no signature and its payload is not stored with one (`binding_exact`): the
payload that is stored does not hold the signature, and the row of a digest is never written again.
-/

namespace Woml.InfrastructurePolicy

open Checked

section
variable [PolicyHost] {bundle : BundleV1} {t : TrustV1} {policy : PreparedV1}

/-- What `prepareInfrastructurePolicy` has found of a bundle. -/
structure Prepared (bundle : BundleV1) (policy : PreparedV1) : Prop where
  bundle_eq : policy.bundle = bundle
  valid : PolicyHost.validateBundle bundle.unsigned = .ok ()
  encoded : PolicyHost.canonicalBundle bundle.unsigned = some policy.canonicalPayload
  fits : policy.canonicalPayload.length ≤ maxBytes
  digest : policy.digest = sha256Prefixed policy.canonicalPayload
  status : policy.signatureStatus = .unsigned ↔ bundle.signature = none
  key : policy.signingKeyId = none ↔ bundle.signature = none

theorem unsigned_iff_of_signature {p : List Nat} {s : Option SignatureV1}
    {st : SignatureStatusV1 × Option String} (h : signatureStatus t p s = .ok st) :
    (st.1 = .unsigned ↔ s = none) ∧ (st.2 = none ↔ s = none) := by
  cases s with
  | none =>
    simp only [signatureStatus, eq_ok_iff] at h
    obtain ⟨_, -, rfl⟩ := h
    simp
  | some s =>
    simp only [signatureStatus, eq_ok_iff] at h
    obtain ⟨_, -, _, -, _, -, rfl⟩ := h
    simp

theorem Prepared.of_prepare (h : prepareInfrastructurePolicy bundle t = .ok policy) :
    Prepared bundle policy := by
  simp only [prepareInfrastructurePolicy, eq_ok_iff, not_lt] at h
  obtain ⟨_, hv, _, -, payload, he, _, hf, status, hs, rfl⟩ := h
  obtain ⟨hst, hk⟩ := unsigned_iff_of_signature hs
  exact ⟨rfl, hv, he, hf, rfl, hst, hk⟩

/-- The decoder reads what the encoder writes. -/
def Decodes : Prop :=
  ∀ bundle bytes, PolicyHost.canonicalBundle bundle = some bytes →
    PolicyHost.parseBundle bytes = some bundle

theorem Prepared.reload (h : Prepared bundle policy) :
    prepareInfrastructurePolicy bundle.unsigned {} = .ok
      { policy with bundle := bundle.unsigned, signatureStatus := .unsigned, signingKeyId := none } := by
  have hu : bundle.unsigned.unsigned = bundle.unsigned := rfl
  have hs : bundle.unsigned.signature = none := rfl
  simp [prepareInfrastructurePolicy, hu, hs, h.valid, h.encoded, h.fits.not_gt, failIf, orFail,
    signatureStatus, h.digest, pure, Except.pure]

end

namespace PolicyStore

variable [PolicyHost] {s s' : PolicyStore} {runId : String} {bundle : BundleV1}
  {policy : PreparedV1} {admittedAt : DateTime}

/-- A policy comes back without the signature of its bundle. -/
theorem load_of_bound (hd : Decodes) (hp : Prepared bundle policy)
    (hb : s.bindings.get? runId = some (policy.digest, admittedAt))
    (hr : s.bundles.get? policy.digest = some policy.row) :
    s.infrastructurePolicyForRun runId = .ok (some { policy with bundle := bundle.unsigned }) := by
  have hpa := hd _ _ hp.encoded
  have hk : decide (policy.signatureStatus = .unsigned) = policy.signingKeyId.isNone := by
    rw [Bool.eq_iff_iff, decide_eq_true_eq, Option.isNone_iff_eq_none, hp.status, hp.key]
  have hu : bundle.unsigned.id = bundle.id ∧ bundle.unsigned.version = bundle.version ∧
      bundle.unsigned.environment = bundle.environment := ⟨rfl, rfl, rfl⟩
  simp [infrastructurePolicyForRun, hb, hr, orFail, PreparedV1.row, hpa, hp.reload, Except.mapError,
    failIf, hp.bundle_eq, hu, hk]

/-- Rows that are there stay, in both tables. -/
structure Grows (s s' : PolicyStore) : Prop where
  bundles : ∀ digest row, s.bundles.get? digest = some row → s'.bundles.get? digest = some row
  bindings : ∀ runId b, s.bindings.get? runId = some b → s'.bindings.get? runId = some b

omit [PolicyHost] in
/-- What a binding has found, and what it leaves. -/
theorem of_bind {at' : DateTime}
    (h : s.bindInfrastructurePolicy runId policy admittedAt = .ok (s', at')) :
    s.Grows s' ∧ s'.bundles.get? policy.digest = some policy.row ∧
      (∃ ba, s'.bindings.get? runId = some (policy.digest, ba)) ∧
      ∀ digest, digest ≠ policy.digest → s'.bundles.get? digest = s.bundles.get? digest := by
  simp only [bindInfrastructurePolicy, eq_ok_iff, not_not] at h
  obtain ⟨_, -, _, hr, bound, hb, _, hd, rfl, -⟩ := h
  refine ⟨⟨fun digest row hg => ?_, fun runId b hg => ?_⟩, hr, ⟨bound.2, ?_⟩, fun digest hn => ?_⟩
  · rw [SortedMap.get?_insertFirst, hg, Option.some_or]
  · rw [SortedMap.get?_insertFirst, hg, Option.some_or]
  · rw [hb, ← hd]
  · rw [SortedMap.get?_insertFirst, if_neg (Ne.symm hn), Option.or_none]

theorem step_cases (a : PolicyAction) :
    (s.step a).bundles = s.bundles ∧ (s.step a).bindings = s.bindings ∨
      ∃ runId bundle policy admittedAt at', Prepared bundle policy ∧
        s.bindInfrastructurePolicy runId policy admittedAt = .ok (s.step a, at') := by
  cases a with
  | enter runId => exact .inl ⟨rfl, rfl⟩
  | bind runId bundle trust admittedAt =>
    cases hp : prepareInfrastructurePolicy bundle trust with
    | error e => simp [step, hp]
    | ok policy =>
      cases hb : s.bindInfrastructurePolicy runId policy admittedAt with
      | error e => simp [step, hp, hb]
      | ok answer =>
        refine .inr ⟨runId, bundle, policy, admittedAt, answer.2, .of_prepare hp, ?_⟩
        simp [step, hp, hb]

theorem grows_run (s : PolicyStore) (acs : List PolicyAction) : s.Grows (s.run acs) := by
  refine List.foldlRecOn acs _ ⟨fun _ _ h => h, fun _ _ h => h⟩ fun t ht action _ => ?_
  have hs : t.Grows (t.step action) := by
    obtain ⟨h, h'⟩ | ⟨_, _, _, _, _, -, h⟩ := t.step_cases action
    · exact ⟨fun _ _ hg => h ▸ hg, fun _ _ hg => h' ▸ hg⟩
    · exact (of_bind h).1
  exact ⟨fun d row h => hs.bundles d row (ht.bundles d row h),
    fun r b h => hs.bindings r b (ht.bindings r b h)⟩

/-- Every row was prepared. -/
def Rows (s : PolicyStore) : Prop :=
  ∀ digest row, s.bundles.get? digest = some row →
    ∃ bundle policy, Prepared bundle policy ∧ policy.row = row ∧ policy.digest = digest

theorem Rows.run (h : s.Rows) (acs : List PolicyAction) : (s.run acs).Rows := by
  refine List.foldlRecOn acs _ h fun s h action _ d row hg => ?_
  obtain ⟨he, -⟩ | ⟨runId, bundle, policy, _, _, hp, hb⟩ := s.step_cases action
  · exact h d row (he ▸ hg)
  · obtain ⟨-, hr, -, ho⟩ := of_bind hb
    by_cases hd : d = policy.digest
    · subst hd
      exact ⟨bundle, policy, hp, Option.some.inj (hr.symm.trans hg), rfl⟩
    · exact h d row (ho d hd ▸ hg)

theorem binding_exact (hsh : Function.Injective Host.sha256) (hde : Decodes)
    (actions : List PolicyAction) (bundle : BundleV1) (trust : TrustV1) (policy : PreparedV1)
    (runId : String) (admittedAt : DateTime)
    (hp : prepareInfrastructurePolicy bundle trust = .ok policy)
    (hr : runId ∈ (run {} actions).runs) (hn : (run {} actions).bindings.get? runId = none) :
    (∀ later other b, (run {} actions).bindings.get? other = some b →
      ((run {} actions).run later).bindings.get? other = some b) ∧
    ((∃ s boundAt, (run {} actions).bindInfrastructurePolicy runId policy admittedAt =
        .ok (s, boundAt) ∧
      ∀ later, (s.run later).infrastructurePolicyForRun runId = .ok (some policy)) ↔
    bundle.signature = none ∧ ∀ row, (run {} actions).bundles.get? policy.digest = some row →
      row.signatureStatus = .unsigned) := by
  have hi : (run {} actions).Rows := Rows.run (fun _ _ h => by cases h) actions
  generalize run {} actions = s at hr hn hi
  refine ⟨fun later other b => (s.grows_run later).bindings other b, ?_⟩
  have hpr := Prepared.of_prepare hp
  constructor
  · rintro ⟨s', boundAt, hb, hl⟩
    obtain ⟨hg, hro, ⟨at', hbd⟩, -⟩ := of_bind hb
    have hbu := hl []
    rw [run, List.foldl_nil, load_of_bound hde hpr hbd hro] at hbu
    have hbu : bundle.unsigned = policy.bundle :=
      congrArg PreparedV1.bundle (Option.some.inj (Except.ok.inj hbu))
    have hs : bundle.signature = none := by
      rw [← hpr.bundle_eq, ← hbu]
      rfl
    refine ⟨hs, fun row hg' => ?_⟩
    rw [← Option.some.inj (hro.symm.trans (hg.bundles _ _ hg'))]
    exact hpr.status.2 hs
  · rintro ⟨hs, hu⟩
    have hu' : bundle.unsigned = bundle := by
      unfold BundleV1.unsigned
      rw [← hs]
    -- A row of the digest is of the same payload, and so of the same bundle.
    have hro : (s.bundles.insertFirst policy.digest policy.row).get? policy.digest =
        some policy.row := by
      rw [SortedMap.get?_insertFirst, if_pos rfl]
      cases hg : s.bundles.get? policy.digest with
      | none => rfl
      | some row =>
        obtain ⟨other, stored, hst, rfl, hd⟩ := hi _ _ hg
        rw [hst.digest, hpr.digest] at hd
        have hpl := hsh ((String.append_right_inj _).1 hd)
        have hbn : other.unsigned = bundle.unsigned := by
          have ho := hde _ _ hst.encoded
          rw [hpl] at ho
          exact Option.some.inj (ho.symm.trans (hde _ _ hpr.encoded))
        have hos := hu _ hg
        have hok := hst.key.2 (hst.status.1 hos)
        simp only [Option.some_or, PreparedV1.row, Option.some.injEq, BundleRow.mk.injEq,
          hst.bundle_eq, hpr.bundle_eq, hpr.key.2 hs, hpr.status.2 hs]
        exact ⟨congrArg (·.id) hbn, congrArg (·.version) hbn, congrArg (·.environment) hbn, hpl,
          hos, hok⟩
    have hbd : (s.bindings.insertFirst runId (policy.digest, admittedAt)).get? runId =
        some (policy.digest, admittedAt) := by
      rw [SortedMap.get?_insertFirst, if_pos rfl, hn, Option.none_or]
    refine ⟨{ s with
      bundles := s.bundles.insertFirst policy.digest policy.row
      bindings := s.bindings.insertFirst runId (policy.digest, admittedAt) }, admittedAt, ?_, ?_⟩
    · simp [bindInfrastructurePolicy, hr, hro, hbd, failIf, orFail]
    · intro later
      have hg := grows_run (PolicyStore.mk s.runs (s.bundles.insertFirst policy.digest policy.row)
        (s.bindings.insertFirst runId (policy.digest, admittedAt))) later
      rw [load_of_bound hde hpr (hg.bindings _ _ hbd) (hg.bundles _ _ hro), hu', ← hpr.bundle_eq]

end PolicyStore

/-! ## A payload with and without a signature -/

namespace Baseline

open PolicyStore

def bundle : BundleV1 := { id := "baseline", version := "1", environment := "prod", content := "" }

def signed : BundleV1 := { bundle with signature := some { keyId := "ops", value := "c2ln" } }

def trust : TrustV1 := { keys := [("ops", "a2V5")] }

@[reducible] def host : PolicyHost :=
  { (default : Host) with
    sha256 := OneValue.digestOf
    validateBundle := fun _ => .ok (), validateSignature := fun _ => .ok ()
    canonicalBundle := fun b => if b = bundle then some [] else none
    parseBundle := fun _ => some bundle, verify := fun _ _ _ => .ok () }

/-- A signed bundle comes back without its signature, and can not be bound at all where a run is
bound to the same payload unsigned. -/
theorem signed_lost_or_refused :
    let _ := host
    ∃ policy, prepareInfrastructurePolicy signed trust = .ok policy ∧
      (∃ loaded, (run {} [.enter "a", .bind "a" signed trust 0]).infrastructurePolicyForRun "a" =
        .ok loaded ∧ loaded.map (·.bundle.signature) = some none) ∧
      ((run {} [.enter "a", .enter "b", .bind "a" bundle trust 0]).bindInfrastructurePolicy "b"
        policy 0).isOk = false := by
  decide +kernel

theorem unsigned_bound :
    let _ := host
    ∃ policy, prepareInfrastructurePolicy bundle trust = .ok policy ∧
      ∃ s boundAt, (run {} [.enter "a"]).bindInfrastructurePolicy "a" policy 0 = .ok (s, boundAt) ∧
        ∀ later, (s.run later).infrastructurePolicyForRun "a" = .ok (some policy) := by
  intro _
  obtain ⟨policy, hp⟩ := exists_ok (x := prepareInfrastructurePolicy bundle trust) (by decide +kernel)
  have hd : Decodes := by
    intro b bytes h
    change (if b = bundle then some [] else none) = some bytes at h
    rw [(Option.ite_none_right_eq_some.1 h).1]
    rfl
  refine ⟨policy, hp, (binding_exact OneValue.digest_injective hd [.enter "a"] bundle trust policy
    "a" 0 hp (by decide) rfl).2.2 ⟨rfl, fun row h => ?_⟩⟩
  cases h

end Baseline

end Woml.InfrastructurePolicy
