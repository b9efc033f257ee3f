import Woml.State.Spec

/-!
# The tables stand for versioned maps

Under the scope of a workflow the tables stand for one map (`Holds`): the rows of the values are its
cells, the largest committed version of a key is the last one that the map gave out, and the quota
row counts the values. An operation that succeeds does what its command does to the map
(`perform_refines`), and touches no other scope.
-/

namespace Woml

open Checked StateMap SortedMap PreparedStateCall

section
variable [StateHost] {value : Value}

/-- What is taken from the JSON library: a canonical text is parsed to a value that has this text,
and the texts of integers are canonical. -/
structure JsonLaws : Prop where
  parses : ∀ {value text}, Host.canonicalJson value = .ok text →
    ∃ normal, StateHost.parseJson text = some normal ∧ Host.canonicalJson normal = .ok text
  integers : ∀ {n : Int}, isSafeInteger n = true →
    StateHost.parseJson (utf8 (toString n)) = some (.int n) ∧
      Host.canonicalJson (.int n) = .ok (utf8 (toString n))

/-- The text of a value, which is parsed to this value. -/
def Encodes (value : Value) (text : List Nat) : Prop :=
  StateHost.parseJson text = some value ∧ Host.canonicalJson value = .ok text

/-- A row and the cell that it stands for. -/
structure Stands (entry : StateEntry) (cell : VersionedMap.Cell Value String) : Prop where
  version : entry.version = cell.version
  updatedAt : entry.updatedAt = cell.stamp
  encodes : Encodes cell.value entry.valueJson
  bytes : entry.valueBytes = entry.valueJson.length

theorem Stands.unique {e entry' : StateEntry} {cell : VersionedMap.Cell Value String}
    (h : Stands e cell) (h' : Stands entry' cell) : e = entry' := by
  have hj : e.valueJson = entry'.valueJson := Except.ok.inj (h.encodes.2.symm.trans h'.encodes.2)
  have hb : e.valueBytes = entry'.valueBytes := by rw [h.bytes, h'.bytes, hj]
  have hv := h.version.trans h'.version.symm
  have hu := h.updatedAt.trans h'.updatedAt.symm
  cases e
  cases entry'
  simp only [StateEntry.mk.injEq]
  exact ⟨hj, hb, hv, hu⟩

theorem canonicalString_eq_ok {text : List Nat} :
    canonicalString value = .ok text ↔ Host.canonicalJson value = .ok text := mapError_eq_ok

theorem parseStoredValue_of {text : List Nat} (h : Encodes value text) :
    parseStoredValue text = .ok value := by
  simp [parseStoredValue, h.1, orFail, canonicalString_eq_ok.2 h.2, failIf]

/-- An error that says the tables are damaged although the versions of the key are not used up, or
that another version was expected although it is the current one, has no excuse. -/
structure StateMap.Excuses (m : StateMap) (call : PreparedStateCall) (error : DurableStateError) :
    Prop where
  corrupt : error = .storeCorrupt → maxStateSafeInteger ≤ m.last call.key
  conflict : error = .conflict → m.expects call.key call.ifVersion = false

omit [StateHost] in
theorem StateMap.Excuses.of_ne {m : StateMap} {call : PreparedStateCall} {error : DurableStateError}
    (h : error ≠ .storeCorrupt ∧ error ≠ .conflict) : m.Excuses call error :=
  ⟨fun he => absurd he h.1, fun he => absurd he h.2⟩

/-- `digest` of a key. -/
def stateKeyDigest (key : String) : String := domainDigest "woml.state-key\x00v1\x00" (utf8 key)

/-- What the checks before the transaction leave. -/
structure PreparedStateCall.Checked (call : PreparedStateCall) : Prop where
  digest : call.keyDigest = stateKeyDigest call.key
  required : ∀ name ∈ call.operation.required, call.input.containsKey name = true
  mutation : call.mutation.isSome = call.operation.isMutation

omit [StateHost] in
theorem JsonMap.exists_of_containsKey {fs : JsonMap} {name : String}
    (h : fs.containsKey name = true) : ∃ value, fs.get? name = some value := by
  obtain ⟨field, hm, hn⟩ := List.any_eq_true.1 h
  have hf : (fs.find? (·.1 = name)).isSome = true := List.find?_isSome.2 ⟨field, hm, hn⟩
  obtain ⟨found, hf⟩ := Option.isSome_iff_exists.1 hf
  exact ⟨found.2, by rw [JsonMap.get?, hf]; rfl⟩

namespace StateTables

variable {t t' : StateTables} {scope key : String} {m : StateMap}

/-- The values of a scope are the cells of a map, and the quota row counts them. -/
structure Live (t : StateTables) (scope : String) (m : StateMap) : Prop where
  cells : ∀ key, Option.Rel Stands (t.readEntry scope key) (m.cell key)
  quota : t.quotas.get? scope = some (t.usage scope) ∨
    t.quotas.get? scope = none ∧ t.usage scope = (0, 0)

/-- The committed versions of a key end with the last one that the map gave out. -/
structure Counted (t : StateTables) (scope : String) (m : StateMap) : Prop where
  given : ∀ key, ∀ v ∈ t.committedVersions scope (stateKeyDigest key), 0 < v ∧ v ≤ m.last key
  last : ∀ key, 0 < m.last key → m.last key ∈ t.committedVersions scope (stateKeyDigest key)

structure Holds (t : StateTables) (scope : String) (m : StateMap) : Prop extends
  Live t scope m, Counted t scope m

theorem Live.cell_cases (h : Live t scope m) (key : String) :
    t.readEntry scope key = none ∧ m.cell key = none ∨
      ∃ entry cell, t.readEntry scope key = some entry ∧ m.cell key = some cell ∧
        Stands entry cell := by
  have hc := h.cells key
  generalize t.readEntry scope key = entry, m.cell key = cell at hc ⊢
  cases hc with
  | none => exact .inl ⟨rfl, rfl⟩
  | some hs => exact .inr ⟨_, _, rfl, rfl, hs⟩

/-! ## The next version -/

theorem Counted.previous (h : Counted t scope m) (key : String) :
    (t.committedVersions scope (stateKeyDigest key)).max? =
      if m.last key = 0 then none else some (m.last key) := by
  split
  · rw [List.max?_eq_none_iff, List.eq_nil_iff_forall_not_mem]
    intro v hv
    obtain ⟨hp, hl⟩ := h.given key v hv
    omega
  · rename_i hn
    rw [List.max?_eq_some_iff]
    exact ⟨h.last key (Nat.pos_of_ne_zero hn), fun v hv => (h.given key v hv).2⟩

theorem Holds.nextVersion (h : Holds t scope m) (key : String) :
    t.nextVersion scope (stateKeyDigest key) (t.readEntry scope key) =
      if maxStateSafeInteger < m.last key + 1 then .error .storeCorrupt
      else .ok (m.last key + 1) := by
  have hp := h.previous key
  have hcu : ((t.readEntry scope key).any fun entry =>
      (t.committedVersions scope (stateKeyDigest key)).max? ≠ some entry.version) = false := by
    rcases h.cell_cases key with ⟨he, -⟩ | ⟨entry, cell, he, hc, hs⟩
    · rw [he]
      rfl
    · obtain ⟨hv, hpo⟩ := m.current hc
      simp [he, hp, hpo.ne', hs.version, hv]
  have hl : ((t.committedVersions scope (stateKeyDigest key)).max?.getD 0) = m.last key := by
    rw [hp]
    split <;> simp_all
  simp only [StateTables.nextVersion, hl]
  rw [failIf, if_neg (by rw [hcu]; exact Bool.false_ne_true)]
  simp only [ok_bind, failIf]
  split <;> rfl

/-! ## The values of a scope -/

omit [StateHost] in
theorem scopeEntries_insert (t : StateTables) (s scope' : String)
    (vs : SortedMap String StateEntry) (qs : SortedMap String (Nat × Nat)) :
    scopeEntries { t with entries := t.entries.insert s vs, quotas := qs } scope' =
      if scope' = s then vs else t.scopeEntries scope' := by
  simp only [scopeEntries, get?_insert]
  split <;> rfl

/-- The number and the bytes of some values. -/
def use (values : List StateEntry) : Nat × Nat := (values.length, (values.map (·.valueBytes)).sum)

omit [StateHost] in
theorem usage_eq_use (t : StateTables) (s : String) :
    t.usage s = use (t.scopeEntries s).values := by
  rw [use, length_values]
  rfl

omit [StateHost] in
theorem use_of_perm {vs rest : List StateEntry} {e : StateEntry} (h : vs.Perm (e :: rest)) :
    use vs = ((use rest).1 + 1, (use rest).2 + e.valueBytes) := by
  rw [use, h.length_eq, (h.map (·.valueBytes)).sum_nat, List.length_cons, List.map_cons,
    List.sum_cons, Nat.add_comm e.valueBytes]
  rfl

omit [StateHost] in
/-- The use of a scope before and after a value is stored, over the use of its other keys. -/
theorem use_insert (vs : SortedMap String StateEntry) (key : String) (e : StateEntry) :
    use (vs.insert key e).values = ((use (vs.erase key).values).1 + 1,
        (use (vs.erase key).values).2 + e.valueBytes) :=
  use_of_perm (values_perm_insert vs key e)

omit [StateHost] in
/-- The use of a scope, over the use of its other keys. -/
theorem usage_of_readEntry (t : StateTables) (s key : String) :
    t.usage s = ((use ((t.scopeEntries s).erase key).values).1 +
        (if (t.readEntry s key).isSome then 1 else 0),
      (use ((t.scopeEntries s).erase key).values).2 +
        ((t.readEntry s key).map (·.valueBytes)).getD 0) := by
  rw [usage_eq_use, readEntry]
  cases hg : (t.scopeEntries s).get? key with
  | none => rw [erase_of_get?_none _ hg]; rfl
  | some entry => exact use_of_perm (values_perm_erase hg)

/-- What the scope has after a value is replaced, or removed. -/
def nextUse (t : StateTables) (scope key : String) (replacement : Option Nat) : Nat × Nat :=
  ((use ((t.scopeEntries scope).erase key).values).1 + (if replacement.isSome then 1 else 0),
    (use ((t.scopeEntries scope).erase key).values).2 + replacement.getD 0)

def withUse (t : StateTables) (scope : String) (next : Nat × Nat) : StateTables :=
  { t with quotas := t.quotas.insert scope next }

/-- `enforce_quota`, in a scope whose row counts its values. -/
theorem Live.enforceQuota (h : Live t scope m) (key : String) (r : Option Nat)
    (hc : (t.readEntry scope key).isSome ∨ r.isSome) (ls : DurableStateLimits) :
    t.enforceQuota scope (t.readEntry scope key) r ls =
      if ls.maxKeys < (t.nextUse scope key r).1 ∨
          ls.maxBytes < (t.nextUse scope key r).2 then .error .quotaExceeded
      else .ok (t.withUse scope (t.nextUse scope key r)) := by
  have hu := t.usage_of_readEntry scope key
  have hcn : ¬((t.quotas.get? scope).any (· ≠ t.usage scope) = true ∨
      (t.quotas.get? scope).isNone = true ∧ t.usage scope ≠ (0, 0)) := by
    rcases h.quota with hs | ⟨hn, hz⟩
    · simp [hs]
    · simp [hn, hz]
  simp only [StateTables.enforceQuota, failIf, if_neg hcn, ok_bind]
  cases he : t.readEntry scope key with
  | none =>
    cases r with
    | none => simp [he] at hc
    | some bytes =>
      simp only [he, Option.isSome_none, Bool.false_eq_true, Option.map_none, Option.getD_none,
        Nat.add_zero] at hu
      simp only [hu, Option.map_none, Option.getD_none, Nat.not_lt_zero, if_false, Nat.sub_zero,
        nextUse, Option.isSome_some, if_true]
      split <;> rfl
  | some entry =>
    simp only [he, Option.isSome_some, if_true] at hu
    have hf : ¬(use ((t.scopeEntries scope).erase key).values).2 + entry.valueBytes <
        entry.valueBytes := by omega
    cases r with
    | none =>
      simp only [hu, Nat.add_one_ne_zero, if_false, Option.map_some, Option.getD_some, hf,
        Nat.add_sub_cancel, Nat.add_zero, nextUse, Option.isSome_none, Bool.false_eq_true]
      split <;> rfl
    | some bytes =>
      simp only [hu, ok_bind, Option.map_some, Option.getD_some, hf, if_false,
        Nat.add_sub_cancel, nextUse, Option.isSome_some, if_true]
      split <;> rfl

/-! ## Changes of the tables -/

/-- What an operation does to the tables, and its command to the map: the scope stands for the new
map, up to the versions; the other scopes and the rows of the changes are as they were; and the
version that it commits is the next one of the key if the map changes, and otherwise one that was
given out. -/
structure Performed (t t' : StateTables) (scope key : String) (m m' : StateMap)
    (version : Option Nat) : Prop where
  live : Live t' scope m'
  mutations : t'.mutations = t.mutations
  elsewhere : ∀ scope', scope' ≠ scope → t'.scopeEntries scope' = t.scopeEntries scope' ∧
    t'.quotas.get? scope' = t.quotas.get? scope'
  counts : m'.last = m.last ∧ (∀ v ∈ version, 0 < v ∧ v = m.last key) ∨
    m'.last = Function.update m.last key (m.last key + 1) ∧ version = some (m.last key + 1)

theorem Performed.same (h : Live t scope m) {version : Option Nat}
    (hv : ∀ v ∈ version, 0 < v ∧ v = m.last key) : Performed t t scope key m m version :=
  ⟨h, rfl, fun _ _ => ⟨rfl, rfl⟩, .inl ⟨rfl, hv⟩⟩

/-- The tables after the values of a scope were replaced. -/
def withScope (t : StateTables) (scope : String) (values : SortedMap String StateEntry) :
    StateTables :=
  { t with
    entries := t.entries.insert scope values
    quotas := t.quotas.insert scope (use values.values) }

omit [StateHost] in
theorem scopeEntries_withScope (t : StateTables) (s scope' : String)
    (vs : SortedMap String StateEntry) :
    (t.withScope s vs).scopeEntries scope' = if scope' = s then vs else t.scopeEntries scope' :=
  scopeEntries_insert t s scope' vs _

/-- A change of one key of a scope. -/
theorem Performed.change (h : Live t scope m) {values : SortedMap String StateEntry}
    (ho : ∀ key', key' ≠ key → values.get? key' = t.readEntry scope key')
    {c : Option (Value × String)}
    (hke : Option.Rel Stands (values.get? key) ((m.change key c).cell key)) :
    Performed t (t.withScope scope values) scope key m (m.change key c)
      (some (m.last key + 1)) := by
  have hv : (t.withScope scope values).scopeEntries scope = values := by
    rw [scopeEntries_withScope, if_pos rfl]
  refine ⟨⟨fun key' => ?_, .inl ?_⟩, rfl, fun s' hn => ⟨?_, ?_⟩, .inr ⟨rfl, rfl⟩⟩
  · rw [readEntry, hv]
    by_cases hk : key' = key
    · rw [hk]
      exact hke
    · rw [ho key' hk]
      simp only [VersionedMap.change, Function.update_of_ne hk]
      exact h.cells key'
  · rw [usage_eq_use, hv]
    exact get?_insert_self _ _ _
  · rw [scopeEntries_withScope, if_neg hn]
  · exact get?_insert_ne _ hn _

variable {call : PreparedStateCall} {limits : DurableStateLimits} {now : String}

/-- A value is stored with the next version of its key, or the table has no room for it. -/
theorem Holds.storeValue (h : Holds t call.scope m) (hd : call.keyDigest = stateKeyDigest call.key)
    {e : List Nat} (he : Encodes value e) (ls : DurableStateLimits) (now : String) :
    (∃ error, t.storeValue ls call (t.readEntry call.scope call.key) e e.length
        now = .error error ∧ m.Excuses call error) ∨
      ∃ t', t.storeValue ls call (t.readEntry call.scope call.key) e e.length
          now = .ok (m.last call.key + 1, t') ∧
        Performed t t' call.scope call.key m (m.write call.key value now)
          (some (m.last call.key + 1)) := by
  let entry : StateEntry :=
    { valueJson := e, valueBytes := e.length, version := m.last call.key + 1
      updatedAt := now }
  let values := (t.scopeEntries call.scope).insert call.key entry
  have hq := h.enforceQuota call.key (some e.length) (.inr rfl) ls
  simp only [StateTables.storeValue, hd, h.nextVersion, hq]
  split
  · exact .inl ⟨_, rfl, fun _ => by omega, nofun⟩
  split
  · exact .inl ⟨_, rfl, nofun, nofun⟩
  simp only [ok_bind, writeEntry, failIf]
  split
  · exact .inl ⟨_, rfl, nofun, nofun⟩
  refine .inr ⟨t.withScope call.scope values, ?_, ?_⟩
  · have hu : t.nextUse call.scope call.key (some e.length) = use values.values :=
      (use_insert (t.scopeEntries call.scope) call.key entry).symm
    simp only [hu]
    rfl
  · refine Performed.change h.toLive (fun key' hn => get?_insert_ne _ hn _) ?_
    simp only [get?_insert_self, VersionedMap.change, Function.update_self,
      Option.map_some]
    exact .some ⟨rfl, rfl, he, rfl⟩

/-- A value is removed, which takes a version, too. -/
theorem Holds.removeValue (h : Holds t call.scope m) (hd : call.keyDigest = stateKeyDigest call.key)
    (hl : (t.readEntry call.scope call.key).isSome = true) (ls : DurableStateLimits) :
    (∃ error, t.removeValue ls call (t.readEntry call.scope call.key) = .error error ∧
        m.Excuses call error) ∨
      ∃ t', t.removeValue ls call (t.readEntry call.scope call.key) =
          .ok (m.last call.key + 1, t') ∧
        Performed t t' call.scope call.key m (m.remove call.key)
          (some (m.last call.key + 1)) := by
  let values := (t.scopeEntries call.scope).erase call.key
  have hq := h.enforceQuota call.key none (.inl hl) ls
  simp only [StateTables.removeValue, hd, h.nextVersion, hq]
  split
  · exact .inl ⟨_, rfl, fun _ => by omega, nofun⟩
  split
  · exact .inl ⟨_, rfl, nofun, nofun⟩
  refine .inr ⟨t.withScope call.scope values, ?_, ?_⟩
  · rfl
  · refine Performed.change h.toLive (fun key' hn => get?_erase_ne _ hn) ?_
    simp only [get?_erase_self, VersionedMap.change, Function.update_self,
      Option.map_none]
    exact .none

/-! ## The operations -/

theorem Live.enforceVersion (h : Live t call.scope m) :
    enforceVersion call.input (t.readEntry call.scope call.key) =
      if m.expects call.key call.ifVersion then .ok () else .error .conflict := by
  unfold Woml.enforceVersion ifVersion
  cases (call.input.get? "ifVersion").bind Value.asU64 with
  | none => rfl
  | some e =>
    rcases h.cell_cases call.key with ⟨he, hc⟩ | ⟨entry, cell, he, hc, hs⟩
    · cases e with
      | zero => simp [he, hc, expects]
      | succ n => simp [he, hc, expects]
    · obtain ⟨hv, hp⟩ := m.current hc
      cases e with
      | zero => simp [he, hc, expects, hs.version, hv, hp.ne']
      | succ n => simp [he, hc, expects, hs.version]

/-- What is stored is read as the integer of the cell. -/
theorem Live.existingInteger (h : Live t scope m) (key : String) :
    (∃ error, existingInteger (t.readEntry scope key) = .error error ∧
        error ≠ .storeCorrupt ∧ error ≠ .conflict) ∨
      ∃ n, existingInteger (t.readEntry scope key) = .ok n ∧ m.integer key = some n := by
  rcases h.cell_cases key with ⟨he, hc⟩ | ⟨entry, cell, he, hc, hs⟩
  · exact .inr ⟨0, by rw [he]; rfl, by simp [integer, hc]⟩
  simp only [he, Woml.existingInteger, parseSafeInteger, hs.encodes.1, orFail, ok_bind,
    integer, hc]
  cases hi : safeInteger cell.value with
  | ok n => exact .inr ⟨n, rfl, rfl⟩
  | error error =>
    refine .inl ⟨error, rfl, ?_⟩
    unfold safeInteger at hi
    split at hi <;> split at hi <;> cases hi <;> simp

/-- The text of the value of a call, and the value that is stored for it. -/
theorem stateValue_cases (hj : JsonLaws) (i : JsonMap) (m : Nat) :
    (∃ error, stateValue i m = .error error ∧ error ≠ .storeCorrupt ∧ error ≠ .conflict) ∨
      ∃ value n encoded, stateValue i m = .ok (encoded, encoded.length) ∧
        i.get? "value" = some value ∧ value.normalForm = some n ∧
        Encodes n encoded := by
  unfold stateValue
  cases hv : i.get? "value" with
  | none => exact .inl ⟨.valueInvalid, rfl, by simp⟩
  | some value =>
    cases he : Host.canonicalJson value with
    | error message =>
      refine .inl ⟨.valueInvalid, ?_, by simp⟩
      simp [orFail, canonicalString, he, Except.mapError]
    | ok encoded =>
      simp only [orFail, ok_bind, canonicalString, he, Except.mapError, failIf]
      split
      · exact .inl ⟨.valueTooLarge, rfl, by simp⟩
      · obtain ⟨n, hp, hc⟩ := hj.parses he
        refine .inr ⟨value, n, encoded, rfl, rfl, ?_, hp, hc⟩
        simp [Value.normalForm, he, Except.toOption, hp]

/-- An operation fails with an error that the map excuses, or does what its command does. -/
def Refined (t : StateTables) (limits : DurableStateLimits) (call : PreparedStateCall)
    (now : String) (m : StateMap) : Prop :=
  (∃ error, t.perform limits call now = .error error ∧ m.Excuses call error) ∨
  ∃ data version bytes t' command m', t.perform limits call now = .ok (data, version, bytes, t') ∧
    call.command = some command ∧ command.run now m = some (data, m') ∧
    Performed t t' call.scope call.key m m' version

theorem Holds.perform_get (h : Holds t call.scope m) (ho : call.operation = .get) :
    Refined t limits call now m := by
  have hcm : call.command = some (.get call.key) := by simp [command, ho]
  rcases h.cell_cases call.key with ⟨he, hc⟩ | ⟨entry, cell, he, hc, hs⟩
  · refine .inr ⟨.missing, none, none, t, _, m, ?_, hcm, ?_, .same h.toLive nofun⟩
    · simp [StateTables.perform, ho, he]
    · simp [StateCommand.run, hc]
  · refine .inr ⟨.found cell.value cell.version cell.stamp, none, none, t, _, m, ?_, hcm, ?_,
      .same h.toLive nofun⟩
    · simp [StateTables.perform, ho, he, parseStoredValue_of hs.encodes, hs.version, hs.updatedAt]
    · simp [StateCommand.run, hc]

theorem Holds.perform_has (h : Holds t call.scope m) (ho : call.operation = .has) :
    Refined t limits call now m := by
  have hcm : call.command = some (.has call.key) := by simp [command, ho]
  rcases h.cell_cases call.key with ⟨he, hc⟩ | ⟨entry, cell, he, hc, hs⟩
  · refine .inr ⟨.absent, none, none, t, _, m, ?_, hcm, ?_, .same h.toLive nofun⟩
    · simp [StateTables.perform, ho, he]
    · simp [StateCommand.run, hc]
  · refine .inr ⟨.present cell.version, none, none, t, _, m, ?_, hcm, ?_, .same h.toLive nofun⟩
    · simp [StateTables.perform, ho, he, hs.version]
    · simp [StateCommand.run, hc]

section
variable (h : Holds t call.scope m) (hd : call.keyDigest = stateKeyDigest call.key)
include h hd

theorem Holds.perform_set (hj : JsonLaws) (ho : call.operation = .set) :
    Refined t limits call now m := by
  unfold Refined
  simp only [StateTables.perform, ho, h.enforceVersion]
  cases hex : m.expects call.key call.ifVersion with
  | false => exact .inl ⟨.conflict, rfl, nofun, fun _ => hex⟩
  | true =>
    rcases stateValue_cases hj call.input limits.maxValueBytes with
      ⟨error, her, hne⟩ | ⟨value, normal, encoded, hok, hv, hn, he⟩
    · exact .inl ⟨error, by rw [her]; rfl, .of_ne hne⟩
    simp only [hok, ok_bind]
    rcases h.storeValue hd he limits now with
      ⟨error, her, hc⟩ | ⟨t', hs, hp⟩
    · exact .inl ⟨error, by rw [her]; rfl, hc⟩
    · refine .inr ⟨.stored (m.last call.key + 1) now, _, _, t', .set call.key value call.ifVersion,
        m.write call.key normal now, by rw [hs]; rfl, ?_, ?_, hp⟩
      · simp [PreparedStateCall.command, ho, hv]
      · simp [StateCommand.run, hex, hn]

theorem Holds.perform_delete (ho : call.operation = .delete) : Refined t limits call now m := by
  have hcm : call.command = some (.delete call.key call.ifVersion) := by
    simp [PreparedStateCall.command, ho]
  unfold Refined
  simp only [StateTables.perform, ho, h.enforceVersion]
  cases hex : m.expects call.key call.ifVersion with
  | false => exact .inl ⟨.conflict, rfl, nofun, fun _ => hex⟩
  | true =>
    simp only [if_true, ok_bind]
    rcases h.cell_cases call.key with ⟨he, hc⟩ | ⟨entry, cell, he, hc, hs⟩
    · refine .inr ⟨.deleted false, none, none, t, _, m, by rw [he], hcm, ?_, .same h.toLive nofun⟩
      simp [StateCommand.run, hex, hc]
    · have hl : (t.readEntry call.scope call.key).isSome = true := by rw [he]; rfl
      rcases h.removeValue hd hl limits with
        ⟨error, her, hco⟩ | ⟨t', hr, hp⟩
      · refine .inl ⟨error, ?_, hco⟩
        rw [he] at her ⊢
        simp [her]
      · refine .inr ⟨.deleted true, some (m.last call.key + 1), none, t', _, m.remove call.key, ?_,
          hcm, ?_, hp⟩
        · rw [he] at hr ⊢
          simp [hr]
        · simp [StateCommand.run, hex, hc]

theorem Holds.perform_increment (hj : JsonLaws) (ho : call.operation = .increment) :
    Refined t limits call now m := by
  unfold Refined
  simp only [StateTables.perform, ho, h.enforceVersion]
  cases hex : m.expects call.key call.ifVersion with
  | false => exact .inl ⟨.conflict, rfl, nofun, fun _ => hex⟩
  | true =>
    simp only [if_true]
    cases ha : (call.input.get? "amount").bind Value.asI64 with
    | none => exact .inl ⟨.integerOverflow, rfl, nofun, nofun⟩
    | some a =>
      have hcm : call.command = some (.increment call.key a call.ifVersion) := by
        simp [PreparedStateCall.command, ho, ha]
      simp only [orFail, ok_bind, failIf]
      split
      · exact .inl ⟨.integerOverflow, rfl, nofun, nofun⟩
      rcases h.existingInteger call.key with ⟨error, he, hn⟩ | ⟨e, hr, hi⟩
      · exact .inl ⟨error, by rw [he]; rfl, .of_ne hn⟩
      simp only [hr, ok_bind]
      split
      · exact .inl ⟨.integerOverflow, rfl, nofun, nofun⟩
      rename_i hs
      have hs : isSafeInteger (e + a) = true := by simpa using hs
      rcases h.storeValue hd (hj.integers hs) limits now with
        ⟨error, he, hc⟩ | ⟨t', hst, hp⟩
      · exact .inl ⟨error, by simp only [ok_bind, he, error_bind], hc⟩
      · refine .inr ⟨.incremented (e + a) (m.last call.key + 1) now, _,
          some (utf8 (toString (e + a))).length, t', _,
          m.write call.key (.int (e + a)) now,
          by simp only [ok_bind, hst], hcm, ?_, hp⟩
        simp [StateCommand.run, hex, hi, hs]

theorem Holds.perform_setIfAbsent (hj : JsonLaws) (ho : call.operation = .setIfAbsent)
    (hv : call.input.get? "value" = some value) : Refined t limits call now m := by
  unfold Refined
  simp only [StateTables.perform, ho]
  rcases h.cell_cases call.key with ⟨hen, hc⟩ | ⟨entry, cell, hen, hc, hs⟩
  · rcases stateValue_cases hj call.input limits.maxValueBytes with
      ⟨error, her, hne⟩ | ⟨value', normal, encoded, hok, hv', hn, he⟩
    · exact .inl ⟨error, by rw [hen, her]; rfl, .of_ne hne⟩
    · rcases h.storeValue hd he limits now with
        ⟨error, her, hcr⟩ | ⟨t', hst, hp⟩
      · refine .inl ⟨error, ?_, hcr⟩
        rw [hen] at her ⊢
        simp [hok, her]
      · refine .inr ⟨.storedIfAbsent true normal (m.last call.key + 1) now, _,
          some encoded.length, t', .setIfAbsent call.key value', m.write call.key normal now, ?_, ?_,
          ?_, hp⟩
        · rw [hen] at hst ⊢
          simp [hok, hst, parseStoredValue_of he]
        · simp [command, ho, hv']
        · simp [StateCommand.run, hc, hn]
  · obtain ⟨hve, hpo⟩ := m.current hc
    have hco : ∀ v ∈ some entry.version, 0 < v ∧ v = m.last call.key := by
      rintro v ⟨⟩
      rw [hs.version, hve]
      exact ⟨hpo, rfl⟩
    refine .inr ⟨.storedIfAbsent false cell.value cell.version cell.stamp, some entry.version,
      some entry.valueBytes, t, .setIfAbsent call.key value, m, ?_, ?_, ?_,
      .same h.toLive hco⟩
    · rw [hen]
      simp [parseStoredValue_of hs.encodes, hs.version, hs.updatedAt]
    · simp [command, ho, hv]
    · simp [StateCommand.run, hc]

end

/-- **An operation refines its command.** -/
theorem Holds.perform (hj : JsonLaws) (h : Holds t call.scope m) (hc : call.Checked)
    (ls : DurableStateLimits) (now : String) : Refined t ls call now m := by
  cases ho : call.operation with
  | get => exact h.perform_get ho
  | has => exact h.perform_has ho
  | set => exact h.perform_set hc.digest hj ho
  | delete => exact h.perform_delete hc.digest ho
  | increment => exact h.perform_increment hc.digest hj ho
  | setIfAbsent =>
    have hk : call.input.containsKey "value" = true :=
      hc.required "value" (by rw [ho]; decide)
    obtain ⟨value, hv⟩ := JsonMap.exists_of_containsKey hk
    exact h.perform_setIfAbsent hc.digest hj ho hv

end StateTables

end

end Woml
