import Mathlib

/-!
# Deletes under foreign keys

A database is a list of rows per table, read by columns. A foreign key demands of every row of its
child table, unless one of the columns is NULL, a row of the parent table with the same values.
`Delete.run` is a `DELETE` statement whose condition selects on a set of chosen values: it fails if
a guard of the table forbids to delete a row, or if a foreign key is violated afterwards.

A list of deletes is `Safe` if it comes to the children of a table before the table. `runAll_safe`:
such a list succeeds and removes what its conditions select in the database it started from.
-/

namespace Relational

variable {T C V : Type} {R : T → Type}

abbrev Database (R : T → Type) : Type := (t : T) → List (R t)

/-- The columns of the rows; a column that a row does not have is NULL. -/
abbrev Columns (R : T → Type) (C V : Type) : Type := (t : T) → R t → C → Option V

structure ForeignKey (T C : Type) where
  child : T
  parent : T
  /-- The columns of the child and the columns of the parent they refer to. -/
  columns : List (C × C)
  deriving DecidableEq

/-- A condition of a `DELETE` statement. -/
inductive Condition (T C : Type)
  /-- The column has a chosen value. -/
  | among (column : C)
  /-- The column is among the values of `target` in the rows of `table` whose `filter` has a
  chosen value. -/
  | select (column : C) (table : T) (target filter : C)
  | either (a b : Condition T C)

structure Delete (T C : Type) where
  table : T
  condition : Condition T C

inductive DeleteError
  /-- A trigger forbids to delete from the table. -/
  | guarded
  | foreignKey
  deriving DecidableEq

section Semantics

variable [DecidableEq V] (column : Columns R C V) (db : Database R)

namespace ForeignKey

variable (key : ForeignKey T C)

def isNull (row : R key.child) : Bool :=
  key.columns.any fun (c, _) => (column key.child row c).isNone

def refers (row : R key.child) (parent : R key.parent) : Bool :=
  key.columns.all fun (c, c') => column key.child row c = column key.parent parent c'

def holds : Bool :=
  (db key.child).all fun row =>
    key.isNull column row || (db key.parent).any (key.refers column row)

end ForeignKey

/-- `PRAGMA foreign_key_check` finds nothing. -/
def Enforced (keys : List (ForeignKey T C)) : Prop := ∀ key ∈ keys, key.holds column db = true

instance (keys : List (ForeignKey T C)) : Decidable (Enforced column db keys) :=
  inferInstanceAs (Decidable (∀ _ ∈ _, _))

variable (chosen : V → Bool)

def Condition.eval {t : T} (row : R t) : Condition T C → Bool
  | among c => (column t row c).any chosen
  | select c table target filter => (column t row c).any fun value =>
      (db table).any fun other =>
        column table other target = some value && (column table other filter).any chosen
  | either a b => a.eval row || b.eval row

variable [DecidableEq T]

/-- The rows that the deletes leave, all conditions taken in `db`. -/
def remaining (deletes : List (Delete T C)) : Database R := fun t =>
  (db t).filter fun row => !deletes.any fun d =>
    decide (d.table = t) && d.condition.eval column db chosen row

variable (keys : List (ForeignKey T C)) (guarded : T → Bool)

def Delete.run (d : Delete T C) : Except DeleteError (Database R) :=
  let selected := fun row : R d.table => d.condition.eval column db chosen row
  if guarded d.table && (db d.table).any selected then .error .guarded
  else
    let deleted := Function.update db d.table ((db d.table).filter (!selected ·))
    if Enforced column deleted keys then .ok deleted else .error .foreignKey

def runAll (deletes : List (Delete T C)) : Except DeleteError (Database R) :=
  deletes.foldlM (fun db d => d.run column db chosen keys guarded) db

end Semantics

/-! ## Which deletes are safe -/

section Safe

variable [DecidableEq T] [DecidableEq C]

/-- The condition on a child selects every row that refers to a parent whose column `c` has a
chosen value. -/
def Condition.follows (key : ForeignKey T C) (c : C) : Condition T C → Bool
  | among c' => key.columns.contains (c', c)
  | select c' table target filter =>
    table = key.parent && key.columns.contains (c', target) && filter = c
  | either a b => a.follows key c || b.follows key c

/-- One of the earlier deletes takes the children with it. -/
def ForeignKey.covered (key : ForeignKey T C) (earlier : List (Delete T C)) (d : Delete T C) :
    Bool :=
  match d.condition with
  | .among c => earlier.any fun e => e.table = key.child && e.condition.follows key c
  | _ => false

def Condition.reads : Condition T C → List T
  | among _ => []
  | select _ table _ _ => [table]
  | either a b => a.reads ++ b.reads

/-- Neither the table nor a table that its condition reads was deleted from before. -/
def Delete.fresh (earlier : List (Delete T C)) (d : Delete T C) : Bool :=
  earlier.all fun e => e.table ≠ d.table && !d.condition.reads.contains e.table

def Delete.safe (keys : List (ForeignKey T C)) (earlier : List (Delete T C)) (d : Delete T C) :
    Bool :=
  d.fresh earlier && keys.all fun key => key.parent ≠ d.table || key.covered earlier d

def Safe (keys : List (ForeignKey T C)) (earlier : List (Delete T C)) :
    List (Delete T C) → Bool
  | [] => true
  | d :: deletes => d.safe keys earlier && Safe keys (earlier ++ [d]) deletes

end Safe

/-! ## Safe deletes succeed -/

section Lemmas

variable [DecidableEq V] {cl : Columns R C V} {db : Database R} {ch : V → Bool}
  {key : ForeignKey T C}

theorem holds_iff : key.holds cl db = true ↔
    ∀ row ∈ db key.child, key.isNull cl row = true ∨
      ∃ p ∈ db key.parent, key.refers cl row p = true := by
  simp [ForeignKey.holds]

theorem value_of_refers {row : R key.child} {p : R key.parent} (h : key.refers cl row p = true)
    {c c' : C} (hc : (c, c') ∈ key.columns) : cl key.child row c = cl key.parent p c' := by
  have := List.all_eq_true.1 h (c, c') hc
  simpa using this

variable [DecidableEq T] {keys : List (ForeignKey T C)} {g : T → Bool}
  {deletes : List (Delete T C)} {cn : Condition T C}

theorem mem_remaining {t : T} {row : R t} :
    row ∈ remaining cl db ch deletes t ↔ row ∈ db t ∧
      ∀ d ∈ deletes, d.table = t → d.condition.eval cl db ch row = false := by
  simp [remaining]

theorem remaining_of_untouched {t : T} (h : ∀ d ∈ deletes, d.table ≠ t) :
    remaining cl db ch deletes t = db t :=
  List.filter_eq_self.2 fun row _ => by
    simp only [Bool.not_eq_true', List.any_eq_false]
    intro d hd
    simp [h d hd]

/-- In a list with one delete for each table, what is left of a table is up to its delete. -/
theorem remaining_of_mem (hn : (deletes.map (·.table)).Nodup) {t : T} (hd : ⟨t, cn⟩ ∈ deletes) :
    remaining cl db ch deletes t = (db t).filter fun row => !cn.eval cl db ch row := by
  refine List.filter_congr fun row _ => congrArg _ ?_
  rw [Bool.eq_iff_iff]
  simp only [List.any_eq_true, Bool.and_eq_true, decide_eq_true_eq]
  constructor
  · rintro ⟨e, he, ht, hev⟩
    obtain rfl := List.inj_on_of_nodup_map hn he hd ht
    exact hev
  · exact fun h => ⟨_, hd, rfl, h⟩

omit [DecidableEq T] in
/-- A condition does not see what becomes of tables it does not read. -/
theorem eval_congr [DecidableEq C] {db' : Database R} {t : T} {row : R t}
    (h : ∀ u ∈ cn.reads, db' u = db u) : cn.eval cl db' ch row = cn.eval cl db ch row := by
  induction cn with
  | among c => rfl
  | select c table tr filter =>
    have ht : db' table = db table := h table (by simp [Condition.reads])
    simp [Condition.eval, ht]
  | either a b iha ihb =>
    simp only [Condition.eval]
    rw [iha fun u hu => h u (by simp [Condition.reads, hu]),
      ihb fun u hu => h u (by simp [Condition.reads, hu])]

/-- The deletes before and a fresh one remove what their conditions select to begin with. -/
theorem update_remaining [DecidableEq C] {er : List (Delete T C)} {d : Delete T C}
    (h : d.fresh er = true) :
    Function.update (remaining cl db ch er) d.table
        ((remaining cl db ch er d.table).filter fun row =>
          !d.condition.eval cl (remaining cl db ch er) ch row) =
      remaining cl db ch (er ++ [d]) := by
  simp only [Delete.fresh, List.all_eq_true, Bool.and_eq_true, decide_eq_true_eq,
    Bool.not_eq_true', ← Bool.not_eq_true, List.contains_iff_mem] at h
  have hta : remaining cl db ch er d.table = db d.table :=
    remaining_of_untouched fun e he => (h e he).1
  funext t
  by_cases ht : t = d.table
  · subst ht
    rw [Function.update_self, hta]
    refine List.filter_congr fun row _ => ?_
    have hev : d.condition.eval cl (remaining cl db ch er) ch row = d.condition.eval cl db ch row :=
      eval_congr fun u hu => remaining_of_untouched fun e he heq => (h e he).2 (heq ▸ hu)
    rw [hev, List.any_append]
    have hea : (er.any fun e => decide (e.table = d.table) &&
        e.condition.eval cl db ch row) = false := by
      simp only [List.any_eq_false]
      intro e he
      simp [(h e he).1]
    simp [hea]
  · rw [Function.update_of_ne ht]
    refine List.filter_congr fun row _ => ?_
    simp [Ne.symm ht]

variable [DecidableEq C]

/-- What a followed condition says: the children of a selected parent are selected. -/
theorem eval_of_follows {c : C} (h : cn.follows key c = true) {row : R key.child} {p : R key.parent}
    (hp : p ∈ db key.parent) (hn : key.isNull cl row = false) (hr : key.refers cl row p = true)
    (hc : (cl key.parent p c).any ch = true) : cn.eval cl db ch row = true := by
  induction cn with
  | among c' =>
    have hm : (c', c) ∈ key.columns := by simpa [Condition.follows] using h
    rw [Condition.eval, value_of_refers hr hm]
    exact hc
  | select c' t tr filter =>
    simp only [Condition.follows, Bool.and_eq_true, decide_eq_true_eq, List.contains_iff_mem] at h
    obtain ⟨⟨rfl, hm⟩, rfl⟩ := h
    have hv := value_of_refers hr hm
    simp only [ForeignKey.isNull, List.any_eq_false, Option.isNone_iff_eq_none] at hn
    obtain ⟨v, hs⟩ := Option.ne_none_iff_exists'.1 (hn (c', tr) hm)
    rw [hs] at hv
    simp only [Condition.eval, hs]
    exact List.any_eq_true.2 ⟨p, hp, by simp [← hv, hc]⟩
  | either a b iha ihb =>
    simp only [Condition.follows, Bool.or_eq_true] at h
    simp only [Condition.eval, Bool.or_eq_true]
    exact h.imp iha ihb

/-- Every delete of the list is covered by the list. -/
def Covered (keys : List (ForeignKey T C)) (deletes : List (Delete T C)) : Prop :=
  ∀ d ∈ deletes, ∀ key ∈ keys, key.parent = d.table → key.covered deletes d = true

theorem ForeignKey.covered_mono {er l : List (Delete T C)} {d : Delete T C}
    (h : key.covered er d = true) (hs : ∀ e ∈ er, e ∈ l) : key.covered l d = true := by
  unfold ForeignKey.covered at h ⊢
  split at h
  · obtain ⟨e, he, hf⟩ := List.any_eq_true.1 h
    exact List.any_eq_true.2 ⟨e, hs e he, hf⟩
  · exact absurd h (by simp)

/-- A row that stays refers to a row that stays. -/
theorem enforced_remaining (hdb : Enforced cl db keys) (hcv : Covered keys deletes) :
    Enforced cl (remaining cl db ch deletes) keys := by
  intro key hke
  refine holds_iff.2 fun row hr => ?_
  obtain ⟨hr, hst⟩ := mem_remaining.1 hr
  cases hn : key.isNull cl row with
  | true => exact .inl rfl
  | false =>
    obtain hn' | ⟨parent, hp, hre⟩ := holds_iff.1 (hdb key hke) row hr
    · rw [hn] at hn'
      exact absurd hn' (by simp)
    · refine .inr ⟨parent, mem_remaining.2 ⟨hp, fun d hd ht => ?_⟩, hre⟩
      have hk := hcv d hd key hke ht.symm
      unfold ForeignKey.covered at hk
      split at hk
      · next c hco =>
        obtain ⟨e, he, hf⟩ := List.any_eq_true.1 hk
        simp only [Bool.and_eq_true, decide_eq_true_eq] at hf
        obtain ⟨hch, hf⟩ := hf
        rw [hco]
        by_contra hs
        have hc : (cl key.parent parent c).any ch = true := by
          simpa [Condition.eval] using hs
        have hev := eval_of_follows hf hp hn hre hc
        rw [hst e he hch] at hev
        exact absurd hev (by simp)
      · exact absurd hk (by simp)

/-- **Safe deletes succeed.** The earlier ones are those that have run already. -/
theorem runAll_safe {er ds : List (Delete T C)} (hd : Enforced cl db keys) (hea : Covered keys er)
    (hg : ∀ d ∈ ds, g d.table = false) (h : Safe keys er ds = true) :
    runAll cl (remaining cl db ch er) ch keys g ds =
      .ok (remaining cl db ch (er ++ ds)) ∧ Covered keys (er ++ ds) := by
  induction ds generalizing er with
  | nil => simpa [runAll, pure, Except.pure] using hea
  | cons d ds ih =>
    simp only [Safe, Delete.safe, Bool.and_eq_true, List.all_eq_true, Bool.or_eq_true,
      decide_eq_true_eq] at h
    obtain ⟨⟨hf, hk⟩, hs⟩ := h
    have hc : Covered keys (er ++ [d]) := by
      intro e he key hke ht
      rcases List.mem_append.1 he with he | he
      · exact ForeignKey.covered_mono (hea e he key hke ht) (by simp +contextual)
      · obtain rfl := List.mem_singleton.1 he
        exact ForeignKey.covered_mono ((hk key hke).resolve_left (not_not_intro ht))
          (by simp +contextual)
    obtain ⟨hr, ha⟩ := ih hc (fun e he => hg e (.tail _ he)) hs
    refine ⟨?_, by simpa using ha⟩
    have hen : Enforced cl (remaining cl db ch (er ++ [d])) keys := enforced_remaining hd hc
    have hst : d.run cl (remaining cl db ch er) ch keys g =
        .ok (remaining cl db ch (er ++ [d])) := by
      simp [Delete.run, hg d (.head _), update_remaining hf, if_pos hen]
    rw [runAll, List.foldlM_cons, hst]
    simpa [runAll, bind, Except.bind] using hr

end Lemmas

end Relational
