import Mathlib.Algebra.BigOperators.Group.List.Basic
import Mathlib.Algebra.GroupWithZero.Nat
import Mathlib.Algebra.Ring.Int.Defs
import Mathlib.Data.List.Perm.Basic
import Mathlib.Tactic.SplitIfs
import SharedListener.Metrics.Basic

/-!
# What a series adds up

Labels are sorted before they are looked up, and two lists of labels are the same
when sorted exactly if one is a permutation of the other (`sortLabels_eq_iff`).  So
an update touches the number under the permutations of its labels and no other one
(`get_add_eq`), and after any updates a number is the sum of the amounts under its
labels, in machine words (`get_ofCalls`).
-/

namespace SharedListener.Metrics

/-! ## Sorted labels -/

theorem sortLabels_perm (labels : List Label) : (sortLabels labels).Perm labels :=
  List.mergeSort_perm _ _

theorem sortLabels_sorted (labels : List Label) :
    (sortLabels labels).Pairwise fun a b => (compare a b).isLE := by
  refine List.pairwise_mergeSort (fun _ _ _ => Std.TransCmp.isLE_trans) (fun a b => ?_) labels
  by_cases hle : (compare a b).isLE
  · rw [hle, Bool.true_or]
  · rw [Std.OrientedCmp.lt_of_not_isLE hle, Ordering.isLE_lt, Bool.or_true]

theorem sortLabels_eq_iff {first second : List Label} :
    sortLabels first = sortLabels second ↔ first.Perm second := by
  constructor
  · intro h
    exact (sortLabels_perm first).symm.trans (h ▸ sortLabels_perm second)
  · intro h
    refine List.Perm.eq_of_pairwise (fun a b _ _ hab hba => ?_) (sortLabels_sorted first)
      (sortLabels_sorted second)
      ((sortLabels_perm first).trans (h.trans (sortLabels_perm second).symm))
    exact Std.LawfulEqCmp.eq_of_compare (Std.OrientedCmp.isLE_antisymm hab hba)

/-! ## One update -/

namespace Series

variable {number : Type} [Add number] [OfNat number 0] {series : Series number}
  {labels other : List Label} {amount : number}

theorem mem_add {key : LabelList} :
    key ∈ series.add labels amount ↔ sortLabels labels = key ∨ key ∈ series := by
  rw [add, Std.ExtTreeMap.mem_insert, Std.LawfulEqCmp.compare_eq_iff_eq]

theorem get_add_eq (series : Series number) (labels other : List Label) (amount : number) :
    (series.add labels amount).get other =
      if labels.Perm other then series.get other + amount else series.get other := by
  rw [get, add, Std.ExtTreeMap.getD_insert]
  simp only [Std.LawfulEqCmp.compare_eq_iff_eq, sortLabels_eq_iff]
  split_ifs with hperm
  · rw [get, get, sortLabels_eq_iff.mpr hperm]
  · rfl

theorem get_add (series : Series number) (labels : List Label) (amount : number) :
    (series.add labels amount).get labels = series.get labels + amount := by
  rw [get_add_eq, if_pos (List.Perm.refl labels)]

theorem forall_mem_add {Allowed : LabelList → Prop} (hold : ∀ key ∈ series, Allowed key)
    (hnew : Allowed (sortLabels labels)) (amount : number) :
    ∀ key ∈ series.add labels amount, Allowed key := by
  intro key hmem
  rcases mem_add.mp hmem with rfl | hmem
  · exact hnew
  · exact hold key hmem

/-- Numbers under one label of the same name are told apart by its value. -/
theorem get_add_label (counter : Counter) (name value other : String) (amount : UInt64) :
    (counter.add [(name, value)] amount).get [(name, other)] =
      counter.get [(name, other)] + if value = other then amount else 0 := by
  rw [get_add_eq]
  simp only [List.singleton_perm_singleton, Prod.mk.injEq, true_and]
  split_ifs
  · rfl
  · exact (UInt64.add_zero _).symm

/-! ## Many updates -/

/-- After any updates a number is what it was and, one after the other, the amounts of the updates
under a permutation of its labels. -/
theorem get_foldl_add {α : Type} (labelsOf : α → List Label) (amountOf : α → number)
    (updates : List α) (series : Series number) (labels : List Label) :
    (updates.foldl (fun series update => series.add (labelsOf update) (amountOf update))
        series).get labels =
      ((updates.filter fun update => (labelsOf update).Perm labels).map amountOf).foldl (· + ·)
        (series.get labels) := by
  induction updates generalizing series with
  | nil => rfl
  | cons update updates ih =>
      rw [List.foldl_cons, ih, get_add_eq, List.filter_cons]
      split_ifs with hperm hdecide hdecide
      · rfl
      · exact absurd (decide_eq_true hperm) hdecide
      · exact absurd (of_decide_eq_true hdecide) hperm
      · rfl

omit [Add number] in
theorem get_empty (labels : List Label) : (∅ : Series number).get labels = 0 :=
  Std.ExtTreeMap.getD_empty

end Series

/-! ## Sums over calls -/

/-- The amounts of those updates, taken together, of which the labels are a permutation of
`labels`. -/
def amountUnder {α amount : Type} [AddCommMonoid amount] (labelsOf : α → List Label)
    (amountOf : α → amount) (updates : List α) (labels : List Label) : amount :=
  ((updates.filter fun update => (labelsOf update).Perm labels).map amountOf).sum

section AmountUnder

variable {α amount : Type} [AddCommMonoid amount] {labelsOf : α → List Label}
  {amountOf : α → amount} {updates others : List α} {labels : List Label}

theorem amountUnder_eq_zero (h : ∀ update ∈ updates, ¬ (labelsOf update).Perm labels) :
    amountUnder labelsOf amountOf updates labels = 0 := by
  have hnone : (updates.filter fun update => (labelsOf update).Perm labels) = [] :=
    List.filter_eq_nil_iff.mpr fun update hupdate => by simpa using h update hupdate
  rw [amountUnder, hnone, List.map_nil, List.sum_nil]

theorem amountUnder_perm (h : others.Perm updates) :
    amountUnder labelsOf amountOf others labels = amountUnder labelsOf amountOf updates labels :=
  ((h.filter _).map amountOf).sum_eq

end AmountUnder

/-! ## Machine words -/

private theorem toNat_foldl_add (start : UInt64) (amounts : List UInt64) :
    (amounts.foldl (· + ·) start).toNat =
      (start.toNat + (amounts.map UInt64.toNat).sum) % 2 ^ 64 := by
  induction amounts generalizing start with
  | nil => exact (Nat.mod_eq_of_lt start.toNat_lt).symm
  | cons amount amounts ih =>
      rw [List.foldl_cons, ih, UInt64.toNat_add, Nat.mod_add_mod, List.map_cons, List.sum_cons,
        Nat.add_assoc]

private theorem toInt_foldl_add (start : Int64) (amounts : List Int64) :
    (amounts.foldl (· + ·) start).toInt =
      (start.toInt + (amounts.map Int64.toInt).sum).bmod (2 ^ 64) := by
  induction amounts generalizing start with
  | nil => simp
  | cons amount amounts ih =>
      rw [List.foldl_cons, ih, Int64.toInt_add, Int.bmod_add_bmod, List.map_cons, List.sum_cons,
        Int.add_assoc]

/-! ## Calls -/

namespace Counter

/-- What a caller can ask of a counter. -/
inductive Call where
  | increment (labels : List Label)
  | add (labels : List Label) (amount : UInt64)

def Call.labels : Call → List Label
  | .increment labels | .add labels _ => labels

def Call.amount : Call → UInt64
  | .increment _ => 1
  | .add _ amount => amount

/-- The counter after a call. -/
def after (counter : Counter) : Call → Counter
  | .increment labels => counter.increment labels
  | .add labels amount => counter.add labels amount

/-- The counter after any calls. -/
def ofCalls (calls : List Call) : Counter :=
  calls.foldl after ∅

theorem after_eq (counter : Counter) (call : Call) :
    counter.after call = counter.add call.labels call.amount := by
  cases call <;> rfl

/-- What calls add up to under some labels, in whatever order these are given. -/
def total (calls : List Call) (labels : List Label) : ℕ :=
  amountUnder Call.labels (fun call => call.amount.toNat) calls labels

theorem toNat_get_ofCalls (calls : List Call) (labels : List Label) :
    ((ofCalls calls).get labels).toNat = total calls labels % 2 ^ 64 := by
  have hafter : after = fun counter call => counter.add call.labels call.amount :=
    funext₂ after_eq
  rw [ofCalls, hafter, Series.get_foldl_add, toNat_foldl_add, Series.get_empty, List.map_map]
  simp only [total, amountUnder, Function.comp_def, UInt64.toNat_zero, Nat.zero_add]

end Counter

namespace Gauge

/-- What a caller can ask of a gauge. -/
inductive Call where
  | increment (labels : List Label)
  | decrement (labels : List Label)
  | add (labels : List Label) (amount : Int64)

def Call.labels : Call → List Label
  | .increment labels | .decrement labels | .add labels _ => labels

def Call.amount : Call → Int64
  | .increment _ => 1
  | .decrement _ => -1
  | .add _ amount => amount

/-- The gauge after a call. -/
def after (gauge : Gauge) : Call → Gauge
  | .increment labels => gauge.increment labels
  | .decrement labels => gauge.add labels (-1)
  | .add labels amount => gauge.add labels amount

/-- The gauge after any calls. -/
def ofCalls (calls : List Call) : Gauge :=
  calls.foldl after ∅

theorem after_eq (gauge : Gauge) (call : Call) :
    gauge.after call = gauge.add call.labels call.amount := by
  cases call <;> rfl

/-- What calls add up to under some labels, in whatever order these are given. -/
def total (calls : List Call) (labels : List Label) : ℤ :=
  amountUnder Call.labels (fun call => call.amount.toInt) calls labels

theorem toInt_get_ofCalls (calls : List Call) (labels : List Label) :
    ((ofCalls calls).get labels).toInt = (total calls labels).bmod (2 ^ 64) := by
  have hafter : after = fun gauge call => gauge.add call.labels call.amount :=
    funext₂ after_eq
  rw [ofCalls, hafter, Series.get_foldl_add, toInt_foldl_add, Series.get_empty, List.map_map]
  simp only [total, amountUnder, Function.comp_def, Int64.toInt_zero, Int.zero_add]

end Gauge

/-- **No update is lost, and no order matters.**  After any calls, the number of a counter under
some labels is the sum of the amounts of those calls of which the labels are a permutation of them,
modulo 2^64; the number of a gauge is the same in two's complement.  It is zero if there are no such
calls, and the calls may have come in any order. -/
theorem get_ofCalls (labels : List Label) :
    (∀ calls : List Counter.Call,
      ((Counter.ofCalls calls).get labels).toNat = Counter.total calls labels % 2 ^ 64 ∧
      ((∀ call ∈ calls, ¬ call.labels.Perm labels) → (Counter.ofCalls calls).get labels = 0) ∧
      ∀ others, others.Perm calls →
        (Counter.ofCalls others).get labels = (Counter.ofCalls calls).get labels) ∧
    ∀ calls : List Gauge.Call,
      ((Gauge.ofCalls calls).get labels).toInt = (Gauge.total calls labels).bmod (2 ^ 64) ∧
      ((∀ call ∈ calls, ¬ call.labels.Perm labels) → (Gauge.ofCalls calls).get labels = 0) ∧
      ∀ others, others.Perm calls →
        (Gauge.ofCalls others).get labels = (Gauge.ofCalls calls).get labels := by
  constructor
  · intro calls
    refine ⟨Counter.toNat_get_ofCalls calls labels, fun hnone => ?_, fun others hperm => ?_⟩
    · rw [← UInt64.toNat_inj, Counter.toNat_get_ofCalls, Counter.total, amountUnder_eq_zero hnone]
      rfl
    · rw [← UInt64.toNat_inj, Counter.toNat_get_ofCalls, Counter.toNat_get_ofCalls,
        Counter.total, amountUnder_perm hperm, Counter.total]
  · intro calls
    refine ⟨Gauge.toInt_get_ofCalls calls labels, fun hnone => ?_, fun others hperm => ?_⟩
    · rw [← Int64.toInt_inj, Gauge.toInt_get_ofCalls, Gauge.total, amountUnder_eq_zero hnone]
      rfl
    · rw [← Int64.toInt_inj, Gauge.toInt_get_ofCalls, Gauge.toInt_get_ofCalls, Gauge.total,
        amountUnder_perm hperm, Gauge.total]

end SharedListener.Metrics
